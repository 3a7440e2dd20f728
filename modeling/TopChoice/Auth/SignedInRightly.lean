/-
# Who is signed in

A party may be signed in to an account when it created the account, or owns an address the
account has had (`Entitled`).  What the outside world has to promise is a condition on the
requests (`Honest`): a password that was chosen for an account is presented for it by who chose
it, a token that was mailed by the owner of the address, and Google vouches for its identities
and their addresses.

Under it no one else is signed in to an account, however the requests interleave
(`signed_in_rightly`).  The invariant says where each credential of an account comes from
(`Sound`): its password was chosen, and its token drawn, by a request that is known, and its
Google identities are held by parties that are entitled to it.
-/

import TopChoice.Auth.SignIn

namespace TopChoice
namespace Auth

open Threads

variable {P : Type} (owner holder : String → P)

/-! ### Entitlement -/

section Entitlement

variable (known : List (P × Note)) (id : UserId)

/-- An address that the account has had. -/
def Had (address : String) : Prop :=
  ∃ party, (party, .created id address) ∈ known ∨ (party, .renamed id address) ∈ known

/-- A party that created the account, or owns an address that it has had. -/
def Entitled (party : P) : Prop :=
  (∃ address, (party, .created id address) ∈ known) ∨
    ∃ address, Had known id address ∧ owner address = party

/-- If anyone chose the password for the account, the party did. -/
def PresentsOwn (password : String) (party : P) : Prop :=
  (∃ entry ∈ known, entry.2 = .chose id password) → (party, .chose id password) ∈ known

end Entitlement

/-- Google vouches for the identity and for its address. -/
def IsTheirs (profile : GoogleProfile) (party : P) : Prop :=
  owner profile.email = party ∧ holder profile.providerAccountId = party

/-- What the outside world promises of the next step of a request. -/
def Visit.Honest (s : SignInState P) (v : Visit P) : Prop :=
  match v.pc with
  | .login dto => ∀ user ∈ s.directory.findByEmail dto.email,
      PresentsOwn s.known user.id dto.password v.party
  | .changePassword id currentPassword _ => PresentsOwn s.known id currentPassword v.party
  | .resetPassword dto => ∀ party id address,
      (party, .drew id dto.token address) ∈ s.known → owner address = v.party
  | .google profile => IsTheirs owner holder profile v.party
  | _ => True

/-- What the outside world promises of an action. -/
def Honest {ι : Type} (s : Sys (SignInState P) ι (Visit P)) : Action ι Drawn Millis → Prop
  | .act i _ => (s.pc i).Honest owner holder s.shared
  | .env _ => True

/-! ### Where credentials come from -/

section Sound

variable (rt : SignInRuntime)

/-- The credentials of an account come from requests that are known. -/
structure UserRow.Sound (known : List (P × Note)) (u : UserRow) : Prop where
  had : Had known u.id u.email
  password : ∀ hash, u.passwordHash = some hash → ∃ party password salt,
    hash = rt.argon2Hash password salt ∧ (party, .chose u.id password) ∈ known
  token : ∀ digest, u.resetTokenHash = some digest → ∃ party token address,
    digest = rt.sha256Hex token ∧ (party, .drew u.id token address) ∈ known

/-- The tables, and what has become known. -/
structure Sound (d : Directory) (known : List (P × Note)) : Prop where
  rows : ∀ u ∈ d.users, u.Sound rt known
  accounts : ∀ a ∈ d.accounts, Entitled owner known a.userId (holder a.providerAccountId)
  chosen : ∀ party id password, (party, .chose id password) ∈ known → Entitled owner known id party
  drawn : ∀ party id token address, (party, .drew id token address) ∈ known → Had known id address

/-- What a request has found out by the point where it stands. -/
def SignInPc.Sound (known : List (P × Note)) (party : P) : SignInPc → Prop
  | .findUser profile => IsTheirs owner holder profile party
  | .link profile existing => IsTheirs owner holder profile party ∧
      ∀ user ∈ existing, user.email = profile.email ∧ Had known user.id user.email
  | .storeToken user token => ∃ asker address, (asker, .drew user.id token address) ∈ known
  | .setPassword id _ | .storePassword id _ => Entitled owner known id party
  | .signedIn user => Entitled owner known user.id party ∧ user.isActive = true
  | _ => True

variable {owner holder rt} {known known' : List (P × Note)} {id : UserId} {party : P}
  {d d' : Directory}

/-! ### More becomes known -/

theorem Had.mono (hsub : known ⊆ known') {address : String} (h : Had known id address) :
    Had known' id address := by
  obtain ⟨party, h | h⟩ := h
  · exact ⟨party, .inl (hsub h)⟩
  · exact ⟨party, .inr (hsub h)⟩

theorem Entitled.mono (hsub : known ⊆ known') (h : Entitled owner known id party) :
    Entitled owner known' id party := by
  rcases h with ⟨address, h⟩ | ⟨address, hhad, howner⟩
  · exact .inl ⟨address, hsub h⟩
  · exact .inr ⟨address, hhad.mono hsub, howner⟩

theorem UserRow.Sound.mono (hsub : known ⊆ known') {u : UserRow} (h : u.Sound rt known) :
    u.Sound rt known' where
  had := h.had.mono hsub
  password hash hhash := by
    obtain ⟨party, password, salt, heq, hchose⟩ := h.password hash hhash
    exact ⟨party, password, salt, heq, hsub hchose⟩
  token digest hdigest := by
    obtain ⟨party, token, address, heq, hdrew⟩ := h.token digest hdigest
    exact ⟨party, token, address, heq, hsub hdrew⟩

theorem SignInPc.Sound.mono (hsub : known ⊆ known') {pc : SignInPc}
    (h : pc.Sound owner holder known party) : pc.Sound owner holder known' party := by
  cases pc with
  | findUser profile => exact h
  | link profile existing => exact ⟨h.1, fun user hu => ⟨(h.2 user hu).1, (h.2 user hu).2.mono hsub⟩⟩
  | storeToken user token =>
    obtain ⟨asker, address, hdrew⟩ := h
    exact ⟨asker, address, hsub hdrew⟩
  | setPassword id password => exact Entitled.mono hsub h
  | storePassword id password => exact Entitled.mono hsub h
  | signedIn user => exact ⟨h.1.mono hsub, h.2⟩
  | _ => trivial

/-- **Notes are learnt**: a password was chosen by who may sign in, a token drawn for an address
the account has had. -/
theorem Sound.learn (h : Sound owner holder rt d known) {notes : List (P × Note)}
    (hchosen : ∀ party id password, (party, .chose id password) ∈ notes →
      Entitled owner (known ++ notes) id party)
    (hdrawn : ∀ party id token address, (party, .drew id token address) ∈ notes →
      Had (known ++ notes) id address) :
    Sound owner holder rt d (known ++ notes) where
  rows u hu := (h.rows u hu).mono (List.subset_append_left _ _)
  accounts a ha := (h.accounts a ha).mono (List.subset_append_left _ _)
  chosen party id password hmem := by
    rcases List.mem_append.1 hmem with hmem | hmem
    · exact (h.chosen party id password hmem).mono (List.subset_append_left _ _)
    · exact hchosen party id password hmem
  drawn party id token address hmem := by
    rcases List.mem_append.1 hmem with hmem | hmem
    · exact (h.drawn party id token address hmem).mono (List.subset_append_left _ _)
    · exact hdrawn party id token address hmem

/-! ### Writes -/

theorem Directory.of_write {users : List UserRow} {accounts : List LinkedAccount}
    (h : Directory.write users accounts = .ok d) : d.users = users ∧ d.accounts = accounts := by
  unfold Directory.write at h
  split_ifs at h
  obtain rfl := Except.ok.inj h
  exact ⟨rfl, rfl⟩

/-- **The rule of a write.** -/
theorem Sound.write (h : Sound owner holder rt d known) {users : List UserRow}
    {accounts : List LinkedAccount} (hwrite : Directory.write users accounts = .ok d')
    (husers : ∀ u ∈ users, u.Sound rt known)
    (haccounts : ∀ a ∈ accounts, Entitled owner known a.userId (holder a.providerAccountId)) :
    Sound owner holder rt d' known := by
  obtain ⟨hu, ha⟩ := Directory.of_write hwrite
  exact ⟨hu ▸ husers, ha ▸ haccounts, h.chosen, h.drawn⟩

theorem sound_created (h : Sound owner holder rt d known) {row : UserRow}
    (hrow : row.Sound rt known) : ∀ u ∈ Table.create row d.users, u.Sound rt known := by
  intro u hu
  rcases Table.mem_create.1 hu with hu | rfl
  · exact h.rows u hu
  · exact hrow

theorem sound_linked (h : Sound owner holder rt d known) {a : LinkedAccount}
    (ha : Entitled owner known a.userId (holder a.providerAccountId)) :
    ∀ b ∈ Table.create a d.accounts,
      Entitled owner known b.userId (holder b.providerAccountId) := by
  intro b hb
  rcases Table.mem_create.1 hb with hb | rfl
  · exact h.accounts b hb
  · exact ha

/-- The rows of an update: that of the id, rewritten, and the others. -/
theorem sound_updated (h : Sound owner holder rt d known) {data : UserRow → UserRow}
    (hdata : ∀ u : UserRow, u.Sound rt known → u.id = id → (data u).Sound rt known) :
    ∀ u ∈ Table.updateOne (fun u => decide (u.id = id)) data d.users, u.Sound rt known := by
  intro u hu
  rcases Table.mem_updateOne hu with ⟨u₀, hu₀, rfl⟩ | hu
  · have hfound := Table.findUnique_some hu₀
    exact hdata u₀ (h.rows u₀ hfound.1) (of_decide_eq_true hfound.2)
  · exact h.rows u hu

/-- **The rule of an update.** -/
theorem Sound.update (h : Sound owner holder rt d known) {data : UserRow → UserRow}
    (hupdate : d.update id data = .ok d')
    (hdata : ∀ u : UserRow, u.Sound rt known → u.id = id → (data u).Sound rt known) :
    Sound owner holder rt d' known := by
  unfold Directory.update at hupdate
  split_ifs at hupdate
  exact h.write hupdate (sound_updated h hdata) h.accounts

/-! ### One step -/

section Step

variable {now : Millis} {c : Drawn} {pc' : SignInPc} {notes : List Note}

/-- What holds after a step: of the tables and what is known by then, and of the request. -/
def StaysSound (owner holder : String → P) (rt : SignInRuntime) (known : List (P × Note))
    (party : P) (outcome : Outcome) : Prop :=
  Sound owner holder rt outcome.1 (known ++ outcome.2.1.map (party, ·)) ∧
    outcome.2.2.Sound owner holder (known ++ outcome.2.1.map (party, ·)) party

/-- A step that writes nothing and makes nothing known. -/
theorem staysSound_quiet (h : Sound owner holder rt d known)
    (hpc : pc'.Sound owner holder known party) :
    StaysSound owner holder rt known party (d, [], pc') := by
  simpa [StaysSound] using And.intro h hpc

/-- A step that writes: it is refused, or what it makes known and writes is sound. -/
theorem staysSound_afterWrite (h : Sound owner holder rt d known)
    {written : Except Refusal Directory}
    (hwritten : ∀ d', written = .ok d' → StaysSound owner holder rt known party (d', notes, pc')) :
    StaysSound owner holder rt known party (afterWrite d written notes pc') := by
  cases written with
  | ok d' => exact hwritten d' rfl
  | error refusal => exact staysSound_quiet h trivial

/-- A step that checks: it is refused, or the request goes on. -/
theorem staysSound_afterCheck (h : Sound owner holder rt d known) {check : Except Refusal Unit}
    (hpc : check = .ok () → pc'.Sound owner holder known party) :
    StaysSound owner holder rt known party (afterCheck d check pc') := by
  cases check with
  | ok _ => exact staysSound_quiet h (hpc rfl)
  | error refusal => exact staysSound_quiet h trivial

/-- A session begins for who is entitled to it. -/
theorem sound_begin {user : UserRow} (h : Entitled owner known user.id party) :
    (begin user).Sound owner holder known party := by
  unfold begin
  split_ifs with hactive
  · exact ⟨h, hactive⟩
  · trivial

theorem Directory.of_findByEmail {email : String} {user : UserRow}
    (h : d.findByEmail email = some user) : user ∈ d.users ∧ user.email = email :=
  ⟨(Table.findUnique_some h).1, of_decide_eq_true (Table.findUnique_some h).2⟩

theorem Directory.of_findById {user : UserRow} (h : d.findById id = some user) :
    user ∈ d.users ∧ user.id = id :=
  ⟨(Table.findUnique_some h).1, of_decide_eq_true (Table.findUnique_some h).2⟩

/-- **A password that verifies** is presented by a party that is entitled to the account. -/
theorem entitled_of_verify (hrt : rt.Lawful) (h : Sound owner holder rt d known) {user : UserRow}
    (hu : user ∈ d.users) {hash password : String} (hhash : user.passwordHash = some hash)
    (hverify : rt.verify hash password = true) (hown : PresentsOwn known user.id password party) :
    Entitled owner known user.id party := by
  obtain ⟨chooser, chosen, salt, rfl, hchose⟩ := (h.rows user hu).password hash hhash
  obtain rfl := hrt.verify_hash chosen salt password hverify
  exact h.chosen party user.id password (hown ⟨_, hchose, rfl⟩)

theorem of_checkCredentials {found : Option UserRow} {password : String} {user : UserRow}
    (h : checkCredentials rt found password = .ok user) : found = some user ∧
      user.isActive = true ∧ ∃ hash, user.passwordHash = some hash ∧
        rt.verify hash password = true := by
  unfold checkCredentials at h
  cases found with
  | none => exact absurd h nofun
  | some row =>
    dsimp only at h
    split_ifs at h with hrefused hdisabled
    obtain rfl := Except.ok.inj h
    cases hhash : row.passwordHash with
    | none => simp [hhash] at hrefused
    | some hash =>
      simp only [hhash, Option.isNone_some, Bool.false_or, Option.bind_some, Option.getD_some,
        Bool.not_eq_true', Bool.not_eq_false] at hrefused
      exact ⟨rfl, by simpa using hdisabled, hash, rfl, hrefused⟩

theorem of_checkCurrent {found : Option UserRow} {password : String}
    (h : checkCurrent rt id found password = .ok ()) : ∃ user hash, found = some user ∧
      user.passwordHash = some hash ∧ rt.verify hash password = true := by
  unfold checkCurrent at h
  cases found with
  | none => exact absurd h nofun
  | some user =>
    dsimp only at h
    cases hhash : user.passwordHash with
    | none => simp [hhash] at h
    | some hash =>
      simp only [hhash] at h
      split_ifs at h with hverify
      exact ⟨user, hash, rfl, hhash, hverify⟩

/-- A password that is stored was chosen by the party whose request stores it. -/
theorem staysSound_password (h : Sound owner holder rt d known)
    (hentitled : Entitled owner known id party) {password : String} {data : UserRow → UserRow}
    (hdata : ∀ known' : List (P × Note), (party, .chose id password) ∈ known' → ∀ u : UserRow,
      u.Sound rt known' → u.id = id → (data u).Sound rt known') :
    StaysSound owner holder rt known party
      (afterWrite d (d.update id data) [.chose id password] .answered) := by
  refine staysSound_afterWrite h fun d' hupdate => ⟨?_, trivial⟩
  refine (h.learn (fun q j pw hmem => ?_) fun q j t a hmem => ?_).update hupdate ?_
  · obtain ⟨rfl, rfl, rfl⟩ : q = party ∧ j = id ∧ pw = password := by simpa using hmem
    exact hentitled.mono (List.subset_append_left _ _)
  · simp at hmem
  · exact hdata _ (List.mem_append_right _ (List.mem_singleton_self _))

theorem of_map_pair {written : Except Refusal Directory} {row user : UserRow}
    (h : written.map (·, row) = .ok (d', user)) : written = .ok d' ∧ row = user := by
  cases written with
  | ok d => simpa [Except.map] using h
  | error refusal => exact absurd h nofun

/-- **The transaction of a Google sign-in** creates or links an account of the party. -/
theorem staysSound_link (h : Sound owner holder rt d known) {profile : GoogleProfile}
    (htheirs : IsTheirs owner holder profile party) {existing : Option UserRow}
    (hexisting : ∀ user ∈ existing, user.email = profile.email ∧ Had known user.id user.email)
    {uuid : UserId} {user : UserRow} (hlink : d.link uuid profile existing = .ok (d', user)) :
    StaysSound owner holder rt known party
      (d', if existing.isNone then [.created uuid profile.email] else [], begin user) := by
  unfold Directory.link at hlink
  cases existing with
  | none =>
    obtain ⟨hwrite, rfl⟩ := of_map_pair hlink
    have hcreated : (party, .created uuid profile.email) ∈
        known ++ [(party, .created uuid profile.email)] :=
      List.mem_append_right _ (List.mem_singleton_self _)
    have hentitled : Entitled owner (known ++ [(party, .created uuid profile.email)]) uuid party :=
      .inl ⟨_, hcreated⟩
    have hlearnt : Sound owner holder rt d (known ++ [(party, .created uuid profile.email)]) :=
      h.learn (fun q j pw hmem => by simp at hmem) fun q j t a hmem => by simp at hmem
    have hrow : (profile.row uuid).Sound rt (known ++ [(party, .created uuid profile.email)]) :=
      ⟨⟨party, .inl hcreated⟩, nofun, nofun⟩
    have hbegin : (begin (profile.row uuid)).Sound owner holder
        (known ++ [(party, .created uuid profile.email)]) party := sound_begin hentitled
    refine ⟨hlearnt.write hwrite (sound_created hlearnt hrow) (sound_linked hlearnt ?_), hbegin⟩
    show Entitled owner _ uuid (holder profile.providerAccountId)
    rw [htheirs.2]
    exact hentitled
  | some found =>
    obtain ⟨hemail, hhad⟩ := hexisting found rfl
    have hentitled : Entitled owner known found.id party :=
      .inr ⟨found.email, hhad, hemail ▸ htheirs.1⟩
    have haccounts := sound_linked h (a := ⟨found.id, profile.providerAccountId⟩)
      (by rw [htheirs.2]; exact hentitled)
    dsimp only at hlink
    split_ifs at hlink with hverified
    · obtain ⟨hwrite, rfl⟩ := of_map_pair hlink
      have hsound := h.write hwrite h.rows haccounts
      exact staysSound_quiet hsound (sound_begin hentitled)
    · cases hcurrent : d.findById found.id with
      | none => rw [hcurrent] at hlink; exact absurd hlink nofun
      | some current =>
        rw [hcurrent] at hlink
        obtain ⟨hwrite, rfl⟩ := of_map_pair hlink
        have hid := (Directory.of_findById hcurrent).2
        have hsound := h.write hwrite
          (sound_updated h fun u hu _ => ⟨hu.had, hu.password, hu.token⟩) haccounts
        refine staysSound_quiet hsound (sound_begin ?_)
        show Entitled owner known current.id party
        rw [hid]
        exact hentitled

/-- **What a step preserves.** -/
theorem next_sound (hrt : rt.Lawful) (h : Sound owner holder rt d known) {pc : SignInPc}
    (hpc : pc.Sound owner holder known party)
    (hhonest : Visit.Honest owner holder ⟨d, now, known⟩ ⟨party, pc⟩) {outcome : Outcome}
    (hnext : pc.next rt d now c = some outcome) :
    StaysSound owner holder rt known party outcome := by
  cases pc with
  | register dto =>
    obtain rfl := Option.some.inj hnext
    refine staysSound_quiet h ?_
    split <;> trivial
  | createUser dto =>
    obtain rfl := Option.some.inj hnext
    refine staysSound_afterWrite h fun d' hcreate => ?_
    let made : List (P × Note) :=
      [(party, .created c.uuid dto.email), (party, .chose c.uuid dto.password)]
    have hcreated : (party, Note.created c.uuid dto.email) ∈ known ++ made :=
      List.mem_append_right _ List.mem_cons_self
    have hentitled : Entitled owner (known ++ made) c.uuid party := .inl ⟨_, hcreated⟩
    have hlearnt : Sound owner holder rt d (known ++ made) := by
      refine h.learn (fun q j pw hmem => ?_) fun q j t a hmem => by simp [made] at hmem
      obtain ⟨rfl, rfl, rfl⟩ : q = party ∧ j = c.uuid ∧ pw = dto.password := by
        simpa [made] using hmem
      exact hentitled
    have hrow : (dto.row c.uuid (rt.argon2Hash dto.password c.salt)).Sound rt (known ++ made) := by
      refine ⟨⟨party, .inl hcreated⟩, fun hash hhash => ?_, nofun⟩
      obtain rfl := Option.some.inj hhash
      exact ⟨party, dto.password, c.salt, rfl,
        List.mem_append_right _ (List.mem_cons_of_mem _ List.mem_cons_self)⟩
    exact ⟨hlearnt.write hcreate (sound_created hlearnt hrow) hlearnt.accounts, hentitled, rfl⟩
  | login dto =>
    obtain rfl := Option.some.inj hnext
    refine staysSound_quiet h ?_
    split
    next user hcheck =>
      obtain ⟨hfound, hactive, hash, hhash, hverify⟩ := of_checkCredentials hcheck
      have hmem := (Directory.of_findByEmail hfound).1
      exact ⟨entitled_of_verify hrt h hmem hhash hverify (hhonest user hfound), hactive⟩
    · trivial
  | google profile =>
    obtain rfl := Option.some.inj hnext
    refine staysSound_quiet h ?_
    split
    next user hlinked =>
      -- the identity is linked to an account that its holder is entitled to
      obtain ⟨a, ha, huser⟩ := Option.bind_eq_some_iff.1 hlinked
      obtain ⟨hmem, hprovider⟩ := Table.findUnique_some ha
      have hentitled := h.accounts a hmem
      rw [of_decide_eq_true hprovider, hhonest.2, ← (Directory.of_findById huser).2] at hentitled
      exact sound_begin hentitled
    · exact hhonest
  | findUser profile =>
    obtain rfl := Option.some.inj hnext
    refine staysSound_quiet h ⟨hpc, fun user hfound => ?_⟩
    obtain ⟨hmem, hemail⟩ := Directory.of_findByEmail hfound
    exact ⟨hemail, (h.rows user hmem).had⟩
  | link profile existing =>
    obtain rfl := Option.some.inj hnext
    cases hlink : d.link c.uuid profile existing with
    | ok linked => exact staysSound_link h hpc.1 hpc.2 hlink
    | error refusal => exact staysSound_quiet h trivial
  | forgotPassword email =>
    obtain rfl := Option.some.inj hnext
    cases hfound : d.findByEmail email with
    | none => exact staysSound_quiet h trivial
    | some user =>
      dsimp only
      split_ifs with hdisabled
      · exact staysSound_quiet h trivial
      · have hhad := (h.rows user (Directory.of_findByEmail hfound).1).had
        have hdrew : (party, Note.drew user.id c.token user.email) ∈
            known ++ [(party, Note.drew user.id c.token user.email)] :=
          List.mem_append_right _ (List.mem_singleton_self _)
        refine ⟨h.learn (fun q j pw hmem => by simp at hmem) fun q j t a hmem => ?_,
          party, user.email, hdrew⟩
        obtain ⟨rfl, rfl, rfl, rfl⟩ : q = party ∧ j = user.id ∧ t = c.token ∧ a = user.email := by
          simpa using hmem
        exact hhad.mono (List.subset_append_left _ _)
  | storeToken user token =>
    obtain rfl := Option.some.inj hnext
    refine staysSound_afterWrite h fun d' hupdate => ?_
    obtain ⟨asker, address, hdrew⟩ := hpc
    refine staysSound_quiet (h.update hupdate fun u hu hid => ⟨hu.had, hu.password, ?_⟩) trivial
    intro digest hdigest
    obtain rfl := Option.some.inj hdigest
    exact ⟨asker, token, address, rfl, hid ▸ hdrew⟩
  | resetPassword dto =>
    obtain rfl := Option.some.inj hnext
    refine staysSound_quiet h ?_
    split
    next user hfound =>
      -- the token was mailed to an address of the account, and its owner presents it
      obtain ⟨hmem, htoken⟩ := Table.findUnique_some hfound
      obtain ⟨asker, token, address, hdigest, hdrew⟩ :=
        (h.rows user hmem).token _ (of_decide_eq_true (Bool.and_eq_true_iff.1 htoken).1)
      obtain rfl := hrt.sha256_inj _ _ hdigest
      exact .inr ⟨address, h.drawn _ _ _ _ hdrew, hhonest _ _ _ hdrew⟩
    · trivial
  | setPassword id password =>
    obtain rfl := Option.some.inj hnext
    refine staysSound_password h hpc fun known' hchose u hu hid => ⟨hu.had, fun hash hhash => ?_, nofun⟩
    obtain rfl := Option.some.inj hhash
    exact ⟨party, password, c.salt, rfl, hid ▸ hchose⟩
  | changePassword id currentPassword newPassword =>
    obtain rfl := Option.some.inj hnext
    refine staysSound_afterCheck h fun hcheck => ?_
    obtain ⟨user, hash, hfound, hhash, hverify⟩ := of_checkCurrent hcheck
    obtain ⟨hmem, rfl⟩ := Directory.of_findById hfound
    exact entitled_of_verify hrt h hmem hhash hverify hhonest
  | storePassword id password =>
    obtain rfl := Option.some.inj hnext
    refine staysSound_password h hpc fun known' hchose u hu hid =>
      ⟨hu.had, fun hash hhash => ?_, hu.token⟩
    obtain rfl := Option.some.inj hhash
    exact ⟨party, password, c.salt, rfl, hid ▸ hchose⟩
  | adminUpdate actorId actorRole id dto =>
    obtain rfl := Option.some.inj hnext
    exact staysSound_afterCheck h fun _ => trivial
  | applyUpdate id dto =>
    obtain rfl := Option.some.inj hnext
    refine staysSound_afterWrite h fun d' hupdate => ?_
    exact staysSound_quiet (h.update hupdate fun u hu _ => ⟨hu.had, hu.password, hu.token⟩) trivial
  | remove actorId id =>
    obtain rfl := Option.some.inj hnext
    exact staysSound_afterCheck h fun _ => trivial
  | anonymise id =>
    obtain rfl := Option.some.inj hnext
    refine staysSound_afterWrite h fun d' hupdate => ⟨?_, trivial⟩
    have hlearnt : Sound owner holder rt d
        (known ++ [(party, Note.renamed id (deletedEmail id))]) :=
      h.learn (fun q j pw hmem => by simp at hmem) fun q j t a hmem => by simp at hmem
    refine hlearnt.update hupdate fun u hu hid => ⟨⟨party, .inr ?_⟩, nofun, nofun⟩
    subst hid
    exact List.mem_append_right _ (List.mem_singleton_self _)
  | unlink id =>
    obtain rfl := Option.some.inj hnext
    refine staysSound_afterWrite h fun d' hunlink => ?_
    refine staysSound_quiet (h.write hunlink h.rows fun a ha => ?_) trivial
    exact h.accounts a (Table.mem_deleteMany.1 ha).1
  | signedIn user => exact absurd hnext nofun
  | answered => exact absurd hnext nofun
  | failed refusal => exact absurd hnext nofun

end Step

/-! ### Runs -/

section Runs

variable {ι : Type} [DecidableEq ι]

/-- The tables and the requests of all parties are sound. -/
structure AllSound (owner holder : String → P) (rt : SignInRuntime)
    (s : Sys (SignInState P) ι (Visit P)) : Prop where
  shared : Sound owner holder rt s.shared.directory s.shared.known
  visits : ∀ i, (s.pc i).pc.Sound owner holder s.shared.known (s.pc i).party

theorem AllSound.step (hrt : rt.Lawful) {s t : Sys (SignInState P) ι (Visit P)}
    {a : Action ι Drawn Millis} (h : AllSound owner holder rt s) (hhonest : Honest owner holder s a)
    (hstep : (signingIn rt P ι).step s a = some t) : AllSound owner holder rt t := by
  cases a with
  | env elapsed =>
    obtain rfl := step_env.1 hstep
    exact ⟨h.shared, h.visits⟩
  | act i c =>
    obtain ⟨shared, visit, hnext, rfl⟩ := step_act.1 hstep
    obtain ⟨⟨d, notes, pc⟩, hpc, heq⟩ := Option.map_eq_some_iff.1 hnext
    obtain ⟨rfl, rfl⟩ := Prod.mk.inj heq
    obtain ⟨hshared, hvisit⟩ := next_sound hrt h.shared (h.visits i) hhonest hpc
    -- the others know what they knew
    refine ⟨hshared, pc_update_cases (P := fun _ (v : Visit P) => v.pc.Sound owner holder _ v.party) hvisit
      fun j _ => (h.visits j).mono (List.subset_append_left _ _)⟩

/-- Requests that have issued no statement, of a service without accounts. -/
structure Starts (s : Sys (SignInState P) ι (Visit P)) : Prop where
  directory : s.shared.directory = .empty
  known : s.shared.known = []
  visits : ∀ i, (s.pc i).pc.isStart = true

omit [DecidableEq ι] in
theorem AllSound.of_starts {s : Sys (SignInState P) ι (Visit P)} (h : Starts s) :
    AllSound owner holder rt s := by
  refine ⟨?_, fun i => ?_⟩
  · rw [h.directory, h.known]
    exact ⟨nofun, nofun, nofun, nofun⟩
  · have hstart := h.visits i
    cases hpc : (s.pc i).pc <;> rw [hpc] at hstart <;> trivial

variable (owner holder) in
/-- **Who is signed in** to an account created it or owns an address that it has had, and found
it active, however the requests interleave. -/
theorem signed_in_rightly (hrt : rt.Lawful) {s t : Sys (SignInState P) ι (Visit P)}
    {actions : List (Action ι Drawn Millis)} (hstarts : Starts s)
    (hhonest : (signingIn rt P ι).Meets (Honest owner holder) s actions)
    (hrun : (signingIn rt P ι).run s actions = some t) {i : ι} {user : UserRow}
    (hsigned : (t.pc i).pc = .signedIn user) :
    Entitled owner t.shared.known user.id (t.pc i).party ∧ user.isActive = true := by
  have hsound : AllSound owner holder rt t :=
    Machine.run_invariant (fun _ _ _ h hC hstep => h.step hrt hC hstep) actions
      (AllSound.of_starts hstarts) hhonest hrun
  have hvisit := hsound.visits i
  rw [hsigned] at hvisit
  exact hvisit

end Runs

end Sound

/-! ### An address that a stranger has registered -/

/-- Digests that show what they are of. -/
def demoSignIn : SignInRuntime where
  sha256Hex token := token
  argon2Hash password _ := password
  verify hash password := decide (hash = password)
  dummyHash := "topchoice-timing-equalizer"

theorem lawful_demoSignIn : demoSignIn.Lawful where
  verify_hash _ _ _ h := (of_decide_eq_true h).symm
  sha256_inj _ _ h := h

/-- Party 1 registers an address of party 0, who then signs in with Google. -/
def demoVisits : Sys (SignInState ℕ) Bool (Visit ℕ) where
  shared := ⟨.empty, 0, []⟩
  pc google :=
    if google then ⟨0, .google ⟨"1042", "mona@example.com", "Mona", none⟩⟩
    else ⟨1, .register ⟨"Mona", "mona@example.com", "Password1", none⟩⟩

def demoDrawn : Drawn := ⟨"u1", "salt", "token"⟩

/-- The account is registered before Google's answer is looked up. -/
def demoActions : List (Action Bool Drawn Millis) :=
  [.act false demoDrawn, .act false demoDrawn, .act true demoDrawn, .act true demoDrawn,
    .act true demoDrawn]

theorem starts_demoVisits : Starts demoVisits := ⟨rfl, rfl, by decide⟩

theorem honest_demoVisits :
    (signingIn demoSignIn ℕ Bool).Meets (Honest (fun _ => 0) fun _ => 0) demoVisits demoActions := by
  refine ⟨trivial, fun s hs => ?_⟩
  obtain rfl := Option.some.inj hs
  refine ⟨trivial, fun s hs => ?_⟩
  obtain rfl := Option.some.inj hs
  refine ⟨⟨rfl, rfl⟩, fun s hs => ?_⟩
  obtain rfl := Option.some.inj hs
  refine ⟨trivial, fun s hs => ?_⟩
  obtain rfl := Option.some.inj hs
  exact ⟨trivial, fun _ _ => trivial⟩

/-- Both are entitled to the account: the owner of the address, and who created it. -/
theorem signed_in_rightly_demo :
    ∃ t, (signingIn demoSignIn ℕ Bool).run demoVisits demoActions = some t ∧
      ∃ user, (t.pc true).pc = .signedIn user ∧
        Entitled (fun _ => 0) t.shared.known user.id (t.pc true).party ∧ user.isActive = true := by
  obtain ⟨t, ht⟩ : ∃ t, (signingIn demoSignIn ℕ Bool).run demoVisits demoActions = some t :=
    ⟨_, rfl⟩
  obtain ⟨user, hsigned⟩ : ∃ user, (t.pc true).pc = .signedIn user := by
    obtain rfl := Option.some.inj ht
    exact ⟨_, rfl⟩
  exact ⟨t, ht, user, hsigned, signed_in_rightly (fun _ => 0) (fun _ => 0) lawful_demoSignIn
    starts_demoVisits honest_demoVisits ht hsigned⟩

end Auth
end TopChoice
