/-
# Uploads on the way

The upload endpoints of `apps/api-core/src/modules/uploads` while several uploads are under
way.  A request that passes the checks of `uploadLocal` opens its file later, gets its bytes in
chunks, and ends or fails, and other requests come in between (`server`).  A failed upload
removes whatever its path names by then.

What may be assumed of a digest is a condition on the requests: whoever sends the right one has
it from a presigned URL (`Unforged`).  Under it every file lies where a presigned key leads, and
an upload that passes the checks does so with a key that was presigned and has not expired
(`written_by_presigned`).  An upload whose path nobody else opens, fails on or removes leaves
there the bytes it sent, in their order (`read_of_transfer`), and its public URL serves them
(`serve_presigned`).
-/

import TopChoice.Lib.Machine
import TopChoice.Lib.OpenFiles
import TopChoice.Uploads.UploadsService

namespace TopChoice
namespace Uploads

open Auth OpenFiles PosixPath

/-- An upload under way: the number of its file and the position in it, once it is open. -/
structure Upload where
  request : UploadRequest
  path : List Char
  received : ℕ
  file : Option (ℕ × ℕ)

/-- What `presign` has given out. -/
structure Grant where
  role : Option UserRole
  key : String
  expiresAt : ℤ

/-- The clock, the disk, the uploads under way by the number of the request, and what was given
out. -/
structure Server where
  now : Millis
  disk : Disk (List Char) UInt8
  uploads : ℕ → Option Upload
  grants : List Grant

/-- A server that starts with an empty directory. -/
def Server.start (now : Millis) : Server := ⟨now, .empty, fun _ => none, []⟩

/-- What happens, one thing at a time. -/
inductive Event where
  | elapse (time : Millis)
  | presign (role : Option UserRole) (dto : PresignUploadDto) (uuid : Uuid)
  | put (id : ℕ) (request : UploadRequest)
  | openFile (id : ℕ)
  | data (id : ℕ) (chunk : List UInt8)
  | finish (id : ℕ)
  | fail (id : ℕ)
  | delete (role : Option UserRole) (key : String)

variable (rt : Runtime) (o : LocalDriverOptions) (u : Unicode)

namespace Server

/-- An upload under way is replaced, or is over. -/
def setUpload (s : Server) (id : ℕ) (upload : Option Upload) : Server :=
  { s with uploads := Function.update s.uploads id upload }

/-- `presign`: an error changes nothing. -/
def presign (s : Server) (role : Option UserRole) (dto : PresignUploadDto) (uuid : Uuid) : Server :=
  match Uploads.presign rt o u s.now role dto uuid with
  | .error _ => s
  | .ok result =>
      { s with grants :=
          ⟨role, result.presigned.key, unixSeconds s.now + presignTtlSeconds⟩ :: s.grants }

/-- `uploadLocal` up to the stream, for a request with a number of its own. -/
def put (s : Server) (id : ℕ) (request : UploadRequest) : Option Server :=
  match s.uploads id, uploadLocal rt o s.now request with
  | some _, _ => none
  | none, .error _ => some s
  | none, .ok path => some (s.setUpload id (some ⟨request, path, 0, none⟩))

/-- `createWriteStream(target)` opens the file. -/
def openFile (s : Server) (id : ℕ) : Option Server :=
  match s.uploads id with
  | some ⟨request, path, received, none⟩ =>
      let opened := s.disk.openTruncate path
      some ({ s with disk := opened.1 }.setUpload id
        (some ⟨request, path, received, some (opened.2, 0)⟩))
  | _ => none

/-- A chunk arrives; none does after the limit was passed. -/
def data (s : Server) (id : ℕ) (chunk : List UInt8) : Option Server :=
  match s.uploads id with
  | some ⟨request, path, received, some (i, position)⟩ =>
      if maxUploadBytes < received then none
      else
        some ({ s with disk := s.disk.write 0 i position chunk }.setUpload id
          (some ⟨request, path, received + chunk.length, some (i, position + chunk.length)⟩))
  | _ => none

/-- The stream ends, unless the limit was passed. -/
def finish (s : Server) (id : ℕ) : Option Server :=
  match s.uploads id with
  | some ⟨_, _, received, some _⟩ =>
      if maxUploadBytes < received then none else some (s.setUpload id none)
  | _ => none

/-- The stream fails: `driver.delete(key)`. -/
def fail (s : Server) (id : ℕ) : Option Server :=
  match s.uploads id with
  | some upload => some ({ s with disk := s.disk.unlink upload.path }.setUpload id none)
  | none => none

/-- `remove`. -/
def delete (s : Server) (role : Option UserRole) (key : String) : Server :=
  match removal rt o role key with
  | .error _ => s
  | .ok path => { s with disk := s.disk.unlink path }

end Server

/-- The endpoints. -/
def server : Machine Server Event where
  step s
    | .elapse time => some { s with now := s.now + time }
    | .presign role dto uuid => some (s.presign rt o u role dto uuid)
    | .put id request => s.put rt o id request
    | .openFile id => s.openFile id
    | .data id chunk => s.data id chunk
    | .finish id => s.finish id
    | .fail id => s.fail id
    | .delete role key => some (s.delete rt o role key)

/-- What `serveLocal` answers with. -/
structure ServedFile where
  contentType : String
  contentLength : ℕ
  bytes : List UInt8
  deriving DecidableEq, Repr

/-- `serveLocal`, with what the file holds at one moment. -/
def serveLocal (s : Server) (key : String) : Except UploadException ServedFile :=
  if key = "" then .error ⟨404, .notFound, "Object not found", []⟩
  else
    match resolveKey rt o key with
    | .error _ => .error ⟨404, .notFound, "Object not found", []⟩
    | .ok path =>
        match s.disk.read path with
        | none => .error ⟨404, .notFound, "Object not found", []⟩
        | some bytes => .ok ⟨servedContentType u key, bytes.length, bytes⟩

/-! ### Where the files are -/

/-- **What a digest promises.**  A request with the right digest has it from a presigned URL. -/
def Unforged (s : Server) : Event → Prop
  | .put _ request => ∀ exp, rt.parseInt request.exp = some exp →
      ofHex request.sig.toList = rt.hmac o.signingSecret (message rt request.key exp) →
      ∃ g ∈ s.grants, message rt g.key g.expiresAt = message rt request.key exp
  | _ => True

/-- The path is where a key leads that somebody who may was given. -/
def Granted (ns : List (List Char)) (grants : List Grant) (path : List Char) : Prop :=
  ∃ g ∈ grants, ∃ p : Presigned, g.key = p.key ∧ path = location (ns ++ p.names)

/-- What holds whenever the endpoints are asked. -/
structure Server.Sound (ns : List (List Char)) (s : Server) : Prop where
  grants : ∀ g ∈ s.grants, MayPresign g.role ∧ ∃ p : Presigned, g.key = p.key
  files : ∀ path i, s.disk.entries path = some i → Granted ns s.grants path
  uploads : ∀ id upload, s.uploads id = some upload → Granted ns s.grants upload.path

theorem Server.sound_start (ns : List (List Char)) (now : Millis) : (Server.start now).Sound ns :=
  ⟨fun _ h => absurd h List.not_mem_nil, fun _ _ h => absurd h nofun, fun _ _ h => absurd h nofun⟩

theorem Granted.mono {ns : List (List Char)} {grants : List Grant} {path : List Char}
    (h : Granted ns grants path) (g : Grant) : Granted ns (g :: grants) path := by
  obtain ⟨g', hg', p, hkey, hpath⟩ := h
  exact ⟨g', List.mem_cons_of_mem _ hg', p, hkey, hpath⟩

variable {rt} {o} {u}

/-- **A request that passes the checks has a key that was given out and has not expired.** -/
theorem grant_of_uploadLocal (hrt : rt.Lawful) {s : Server} {id : ℕ} {request : UploadRequest}
    {path : List Char} (hforged : Unforged rt o s (.put id request))
    (h : uploadLocal rt o s.now request = .ok path) :
    ∃ g ∈ s.grants, g.key = request.key ∧ (unixSeconds s.now : ℤ) ≤ g.expiresAt := by
  obtain ⟨-, hverify, -⟩ := uploadLocal_eq_ok_iff.1 h
  obtain ⟨exp, hexp, hnow, hdigest⟩ := of_verifyUploadSignature hverify
  obtain ⟨g, hg, hmessage⟩ := hforged exp hexp hdigest
  obtain ⟨hkey, huntil⟩ := message_injective hrt hmessage
  exact ⟨g, hg, hkey, huntil ▸ hnow⟩

/-- An upload replaced or over. -/
theorem Server.Sound.setUpload {ns : List (List Char)} {s : Server} (hs : s.Sound ns) {id : ℕ}
    {upload : Option Upload} (h : ∀ up ∈ upload, Granted ns s.grants up.path) :
    (s.setUpload id upload).Sound ns := by
  refine ⟨hs.grants, hs.files, fun id' up hup => ?_⟩
  by_cases hid : id' = id
  · subst hid
    exact h up (by simpa [Server.setUpload] using hup)
  · exact hs.uploads id' up (by simpa [Server.setUpload, hid] using hup)

/-- A disk with no new path. -/
theorem Server.Sound.disk {ns : List (List Char)} {s : Server} (hs : s.Sound ns)
    {d : Disk (List Char) UInt8}
    (h : ∀ path i, d.entries path = some i → Granted ns s.grants path) :
    Server.Sound ns { s with disk := d } := ⟨hs.grants, h, hs.uploads⟩

/-- The step lemma. -/
theorem Server.Sound.step (hrt : rt.Lawful) {ns : List (List Char)} (hns : ∀ n ∈ ns, Ordinary n)
    (hroot : root rt o = location ns) {s t : Server} {e : Event} (hs : s.Sound ns)
    (hforged : Unforged rt o s e) (h : (server rt o u).step s e = some t) : t.Sound ns := by
  cases e with
  | elapse time =>
    obtain rfl := Option.some.inj h
    exact ⟨hs.grants, hs.files, hs.uploads⟩
  | presign role dto uuid =>
    obtain rfl := Option.some.inj h
    unfold Server.presign
    split
    · exact hs
    next result hresult =>
      obtain ⟨hrole, p, -, -, rfl, -⟩ := exists_presigned hresult
      refine ⟨List.forall_mem_cons.2 ⟨⟨hrole, p, rfl⟩, hs.grants⟩, ?_, ?_⟩
      · exact fun path i hi => (hs.files path i hi).mono _
      · exact fun id up hup => (hs.uploads id up hup).mono _
  | put id request =>
    change s.put rt o id request = some t at h
    unfold Server.put at h
    split at h
    · cases h
    · obtain rfl := Option.some.inj h
      exact hs
    next path _ hpath =>
      obtain rfl := Option.some.inj h
      obtain ⟨g, hg, hkey, -⟩ := grant_of_uploadLocal hrt hforged hpath
      obtain ⟨-, p, hp⟩ := hs.grants g hg
      obtain ⟨-, -, -, -, hresolve⟩ := uploadLocal_eq_ok_iff.1 hpath
      obtain ⟨htarget, -⟩ := (resolveKey_eq_ok_iff hns hroot _ _).1 hresolve
      refine hs.setUpload fun up hup => ?_
      obtain rfl := Option.mem_some.1 hup
      refine ⟨g, hg, p, hp, ?_⟩
      rw [htarget, ← hkey, hp, p.toList_key, follow_text p.ordinary_names (by simp [Presigned.names])]
  | openFile id =>
    change s.openFile id = some t at h
    unfold Server.openFile at h
    split at h
    next request path received hup =>
      obtain rfl := Option.some.inj h
      have hgranted := hs.uploads id _ hup
      refine (hs.disk fun path' i hi => ?_).setUpload fun up hup => ?_
      · rcases Disk.entries_openTruncate hi with rfl | hi
        · exact hgranted
        · exact hs.files path' i hi
      · obtain rfl := Option.mem_some.1 hup
        exact hgranted
    · cases h
  | data id chunk =>
    change s.data id chunk = some t at h
    unfold Server.data at h
    split at h
    next request path received i position hup =>
      split_ifs at h
      obtain rfl := Option.some.inj h
      have hwritten : Server.Sound ns { s with disk := s.disk.write 0 i position chunk } :=
        hs.disk hs.files
      have hgranted := hs.uploads id _ hup
      refine hwritten.setUpload fun up hup' => ?_
      obtain rfl := Option.mem_some.1 hup'
      exact hgranted
    · cases h
  | finish id =>
    change s.finish id = some t at h
    unfold Server.finish at h
    split at h
    · split_ifs at h
      obtain rfl := Option.some.inj h
      exact hs.setUpload fun up hup => absurd hup (by simp)
    · cases h
  | fail id =>
    change s.fail id = some t at h
    unfold Server.fail at h
    split at h
    · obtain rfl := Option.some.inj h
      refine (hs.disk fun path i hi => ?_).setUpload fun up hup => absurd hup (by simp)
      exact hs.files path i (Disk.entries_unlink_eq_some.1 hi).2
    · cases h
  | delete role key =>
    obtain rfl := Option.some.inj h
    unfold Server.delete
    split
    · exact hs
    · exact hs.disk fun path i hi => hs.files path i (Disk.entries_unlink_eq_some.1 hi).2

/-- An upload that starts with the checks passed has a key that was given out to somebody who
may, and the link has not expired. -/
def StartsGranted (rt : Runtime) (o : LocalDriverOptions) (s : Server) : Event → Prop
  | .put _ request => ∀ path, uploadLocal rt o s.now request = .ok path →
      ∃ g ∈ s.grants, MayPresign g.role ∧ g.key = request.key ∧
        (unixSeconds s.now : ℤ) ≤ g.expiresAt
  | _ => True

/-- **Only presigned keys are written to.**  Whatever is sent in whatever order by whomever, an
upload starts with a key that was presigned and has not expired, and every file lies where a
presigned key leads, two levels below the upload directory. -/
theorem written_by_presigned (hrt : rt.Lawful) {ns : List (List Char)}
    (hns : ∀ n ∈ ns, Ordinary n) (hroot : root rt o = location ns) {now : Millis} {s : Server}
    {es : List Event} (hforged : (server rt o u).Meets (Unforged rt o) (.start now) es)
    (hrun : (server rt o u).run (.start now) es = some s) :
    (server rt o u).Meets (StartsGranted rt o) (.start now) es ∧
      ∀ path i, s.disk.entries path = some i → ∃ g ∈ s.grants, MayPresign g.role ∧
        ∃ p : Presigned, g.key = p.key ∧ path = location (ns ++ p.names) := by
  have hstep : ∀ (s : Server) (e : Event) (t : Server), s.Sound ns → Unforged rt o s e →
      (server rt o u).step s e = some t → t.Sound ns :=
    fun s e t hs he h => hs.step hrt hns hroot he h
  have hstart := Server.sound_start ns now
  constructor
  · refine Machine.Meets.of_invariant hstep (fun s e hs he => ?_) es hstart hforged
    cases e with
    | put id request =>
      intro path hpath
      obtain ⟨g, hg, hkey, huntil⟩ := grant_of_uploadLocal hrt he hpath
      exact ⟨g, hg, (hs.grants g hg).1, hkey, huntil⟩
    | _ => trivial
  · intro path i hi
    have hend := Machine.run_invariant hstep es hstart hforged hrun
    obtain ⟨g, hg, p, hkey, hpath⟩ := hend.files path i hi
    exact ⟨g, hg, (hend.grants g hg).1, p, hkey, hpath⟩

/-! ### One upload among others -/

/-- The event belongs to the upload. -/
def Event.concerns (id : ℕ) : Event → Bool
  | .put i _ | .openFile i | .data i _ | .finish i | .fail i => i = id
  | _ => false

/-- Nobody else opens the path, fails on it or removes it. -/
def Undisturbed (rt : Runtime) (o : LocalDriverOptions) (id : ℕ) (path : List Char) (s : Server) :
    Event → Prop
  | .openFile i | .fail i => i ≠ id → ∀ up, s.uploads i = some up → up.path ≠ path
  | .delete role key => removal rt o role key ≠ .ok path
  | _ => True

/-- How far an upload has come, with the bytes that arrived. -/
inductive Phase where
  | waiting
  | writing (bytes : List UInt8)
  | stored (bytes : List UInt8)

/-- An upload on its own. -/
def alone : Machine Phase Event where
  step
    | .waiting, .openFile _ => some (.writing [])
    | .writing bytes, .data _ chunk => some (.writing (bytes ++ chunk))
    | .writing bytes, .finish _ => some (.stored bytes)
    | _, _ => none

theorem alone_data (id : ℕ) (chunks : List (List UInt8)) (bytes : List UInt8) :
    alone.run (.writing bytes) (chunks.map (.data id) ++ [.finish id]) =
      some (.stored (bytes ++ chunks.flatten)) := by
  induction chunks generalizing bytes with
  | nil => simp [alone, Machine.run]
  | cons chunk chunks ih =>
    show alone.run (.writing (bytes ++ chunk)) (chunks.map (.data id) ++ [.finish id]) = _
    rw [ih]
    simp

/-- **An upload on its own stores its chunks, one after the other.** -/
theorem alone_run (id : ℕ) (chunks : List (List UInt8)) :
    alone.run .waiting (.openFile id :: (chunks.map (.data id) ++ [.finish id])) =
      some (.stored chunks.flatten) := by
  show alone.run (.writing []) (chunks.map (.data id) ++ [.finish id]) = _
  rw [alone_data, List.nil_append]

namespace Server

/-- An upload to the path has the file open. -/
def Opens (s : Server) (path : List Char) (i : ℕ) : Prop :=
  ∃ j up position, s.uploads j = some up ∧ up.path = path ∧ up.file = some (i, position)

/-- The files that are open are named by no other path than the one they were opened for. -/
structure Tidy (s : Server) : Prop where
  wellFormed : s.disk.WellFormed
  lt_fresh : ∀ {path i}, s.Opens path i → i < s.disk.fresh
  owned : ∀ {path other i}, s.Opens path i → s.disk.entries other = some i → other = path

theorem tidy_start (now : Millis) : (Server.start now).Tidy :=
  ⟨Disk.wellFormed_empty, fun ⟨_, _, _, h, _⟩ => absurd h nofun, fun ⟨_, _, _, h, _⟩ => absurd h nofun⟩

/-- No other upload has the path open. -/
def Quiet (s : Server) (id : ℕ) (path : List Char) : Prop :=
  ∀ j up, j ≠ id → s.uploads j = some up → up.path = path → up.file = none

/-- Where an upload to a path stands. -/
def At (s : Server) (id : ℕ) (path : List Char) : Phase → Prop
  | .waiting => ∃ up, s.uploads id = some up ∧ up.path = path ∧ up.file = none
  | .writing bytes => ∃ up i, s.uploads id = some up ∧ up.path = path ∧
      up.file = some (i, bytes.length) ∧ s.disk.Holds path i bytes
  | .stored bytes => s.uploads id = none ∧ ∃ i, s.disk.Holds path i bytes

end Server

/-- What a step does to the disk and to the uploads. -/
theorem server_step_cases {s t : Server} {e : Event} (h : (server rt o u).step s e = some t) :
    (t.disk = s.disk ∧ (t.uploads = s.uploads ∨ ∃ id up, up.file = none ∧ s.uploads id = none ∧
      e = .put id up.request ∧ t.uploads = Function.update s.uploads id (some up))) ∨
    (∃ id up, e = .openFile id ∧ s.uploads id = some up ∧ up.file = none ∧
      t.disk = (s.disk.openTruncate up.path).1 ∧
      t.uploads = Function.update s.uploads id
        (some { up with file := some ((s.disk.openTruncate up.path).2, 0) })) ∨
    (∃ id up i position chunk, e = .data id chunk ∧ s.uploads id = some up ∧
      up.file = some (i, position) ∧ t.disk = s.disk.write 0 i position chunk ∧
      t.uploads = Function.update s.uploads id
        (some { up with
          received := up.received + chunk.length, file := some (i, position + chunk.length) })) ∨
    (∃ id up, e = .finish id ∧ s.uploads id = some up ∧ up.file.isSome ∧ t.disk = s.disk ∧
      t.uploads = Function.update s.uploads id none) ∨
    (∃ id up, e = .fail id ∧ s.uploads id = some up ∧ t.disk = s.disk.unlink up.path ∧
      t.uploads = Function.update s.uploads id none) ∨
    (∃ role key path, e = .delete role key ∧ removal rt o role key = .ok path ∧
      t.disk = s.disk.unlink path ∧ t.uploads = s.uploads) := by
  cases e with
  | elapse time =>
    obtain rfl := Option.some.inj h
    exact .inl ⟨rfl, .inl rfl⟩
  | presign role dto uuid =>
    obtain rfl := Option.some.inj h
    unfold Server.presign
    split <;> exact .inl ⟨rfl, .inl rfl⟩
  | put id request =>
    change s.put rt o id request = some t at h
    unfold Server.put at h
    split at h
    · exact absurd h nofun
    · obtain rfl := Option.some.inj h
      exact .inl ⟨rfl, .inl rfl⟩
    next path hnone _ =>
      obtain rfl := Option.some.inj h
      exact .inl ⟨rfl, .inr ⟨id, ⟨request, path, 0, none⟩, rfl, hnone, rfl, rfl⟩⟩
  | openFile id =>
    change s.openFile id = some t at h
    unfold Server.openFile at h
    split at h
    next request path received hup =>
      obtain rfl := Option.some.inj h
      exact .inr (.inl ⟨id, _, rfl, hup, rfl, rfl, rfl⟩)
    · exact absurd h nofun
  | data id chunk =>
    change s.data id chunk = some t at h
    unfold Server.data at h
    split at h
    next request path received i position hup =>
      split_ifs at h
      obtain rfl := Option.some.inj h
      exact .inr (.inr (.inl ⟨id, _, i, position, chunk, rfl, hup, rfl, rfl, rfl⟩))
    · exact absurd h nofun
  | finish id =>
    change s.finish id = some t at h
    unfold Server.finish at h
    split at h
    next hup =>
      split_ifs at h
      obtain rfl := Option.some.inj h
      exact .inr (.inr (.inr (.inl ⟨id, _, rfl, hup, rfl, rfl, rfl⟩)))
    · exact absurd h nofun
  | fail id =>
    change s.fail id = some t at h
    unfold Server.fail at h
    split at h
    next up hup =>
      obtain rfl := Option.some.inj h
      exact .inr (.inr (.inr (.inr (.inl ⟨id, up, rfl, hup, rfl, rfl⟩))))
    · exact absurd h nofun
  | delete role key =>
    obtain rfl := Option.some.inj h
    unfold Server.delete
    split
    · exact .inl ⟨rfl, .inl rfl⟩
    next path hpath => exact .inr (.inr (.inr (.inr (.inr ⟨role, key, path, rfl, hpath, rfl, rfl⟩))))

namespace Server

/-- An upload taken from the uploads after one of them was replaced. -/
theorem update_cases {uploads : ℕ → Option Upload} {id j : ℕ} {new : Option Upload} {up : Upload}
    (h : Function.update uploads id new j = some up) :
    j = id ∧ new = some up ∨ j ≠ id ∧ uploads j = some up := by
  by_cases hj : j = id
  · subst hj
    exact .inl ⟨rfl, by simpa using h⟩
  · exact .inr ⟨hj, by simpa [hj] using h⟩

theorem change_step {s t : Server} {e : Event} (h : (server rt o u).step s e = some t) :
    Disk.Change s.disk t.disk := by
  rcases server_step_cases h with ⟨hdisk, -⟩ | ⟨-, up, -, -, -, hdisk, -⟩ |
    ⟨-, -, i, position, chunk, -, -, -, hdisk, -⟩ | ⟨-, -, -, -, -, hdisk, -⟩ |
    ⟨-, up, -, -, hdisk, -⟩ | ⟨-, -, path, -, -, hdisk, -⟩
  · exact hdisk ▸ .same
  · exact hdisk ▸ .opened up.path
  · exact hdisk ▸ .written 0 i position chunk
  · exact hdisk ▸ .same
  · exact hdisk ▸ .unlinked up.path
  · exact hdisk ▸ .unlinked path

/-- A file that is open was open before the step, or was opened by it. -/
theorem opens_step {s t : Server} {e : Event} (h : (server rt o u).step s e = some t)
    {path : List Char} {i : ℕ} (hopens : t.Opens path i) :
    s.Opens path i ∨ t.disk.Holds path i [] := by
  obtain ⟨j, up', position', hj, hpath, hfile'⟩ := hopens
  rcases server_step_cases h with ⟨-, huploads | ⟨id, up, hfile, -, -, huploads⟩⟩ |
    ⟨id, up, -, hup, -, hdisk, huploads⟩ | ⟨id, up, i', position, chunk, -, hup, hfile, -, huploads⟩ |
    ⟨id, up, -, -, -, -, huploads⟩ | ⟨id, up, -, -, -, huploads⟩ | ⟨-, -, -, -, -, -, huploads⟩
  · exact .inl ⟨j, up', position', huploads ▸ hj, hpath, hfile'⟩
  · rcases update_cases (huploads ▸ hj) with ⟨-, hnew⟩ | ⟨-, hj⟩
    · obtain rfl := Option.some.inj hnew
      exact absurd (hfile.symm.trans hfile') nofun
    · exact .inl ⟨j, up', position', hj, hpath, hfile'⟩
  · rcases update_cases (huploads ▸ hj) with ⟨-, hnew⟩ | ⟨-, hj⟩
    · obtain rfl := Option.some.inj hnew
      obtain ⟨rfl, -⟩ := Prod.mk.inj (Option.some.inj hfile')
      subst hpath
      exact .inr (hdisk ▸ Disk.holds_openTruncate s.disk up.path)
    · exact .inl ⟨j, up', position', hj, hpath, hfile'⟩
  · rcases update_cases (huploads ▸ hj) with ⟨-, hnew⟩ | ⟨-, hj⟩
    · obtain rfl := Option.some.inj hnew
      obtain ⟨rfl, -⟩ := Prod.mk.inj (Option.some.inj hfile')
      exact .inl ⟨id, up, position, hup, hpath, hfile⟩
    · exact .inl ⟨j, up', position', hj, hpath, hfile'⟩
  · rcases update_cases (huploads ▸ hj) with ⟨-, hnew⟩ | ⟨-, hj⟩
    · exact absurd hnew nofun
    · exact .inl ⟨j, up', position', hj, hpath, hfile'⟩
  · rcases update_cases (huploads ▸ hj) with ⟨-, hnew⟩ | ⟨-, hj⟩
    · exact absurd hnew nofun
    · exact .inl ⟨j, up', position', hj, hpath, hfile'⟩
  · exact .inl ⟨j, up', position', huploads ▸ hj, hpath, hfile'⟩

theorem Tidy.step {s t : Server} {e : Event} (hs : s.Tidy)
    (h : (server rt o u).step s e = some t) : t.Tidy := by
  have hchange := change_step h
  have hwf := hs.wellFormed.change hchange
  refine ⟨hwf, fun hopens => ?_, fun hopens hentry => ?_⟩
  · rcases opens_step h hopens with hold | hnew
    · exact lt_of_lt_of_le (hs.lt_fresh hold) hchange.fresh_le
    · exact hwf.lt_fresh hnew.1
  · rcases opens_step h hopens with hold | hnew
    · exact hs.owned hold (hchange.entries (hs.lt_fresh hold) hentry)
    · exact hwf.injective hentry hnew.1

/-- **Nobody else comes to have the path open.** -/
theorem Quiet.step {s t : Server} {e : Event} {id : ℕ} {path : List Char} (hq : s.Quiet id path)
    (hu : Undisturbed rt o id path s e) (h : (server rt o u).step s e = some t) :
    t.Quiet id path := by
  intro j up' hne hj hpath
  rcases server_step_cases h with ⟨-, huploads | ⟨i, up, hfile, -, -, huploads⟩⟩ |
    ⟨i, up, rfl, hup, -, -, huploads⟩ | ⟨i, up, i', position, chunk, -, hup, hfile, -, huploads⟩ |
    ⟨i, up, -, -, -, -, huploads⟩ | ⟨i, up, -, -, -, huploads⟩ | ⟨-, -, -, -, -, -, huploads⟩
  · exact hq j up' hne (huploads ▸ hj) hpath
  · rcases update_cases (huploads ▸ hj) with ⟨-, hnew⟩ | ⟨-, hj⟩
    · obtain rfl := Option.some.inj hnew
      exact hfile
    · exact hq j up' hne hj hpath
  · rcases update_cases (huploads ▸ hj) with ⟨rfl, hnew⟩ | ⟨-, hj⟩
    · obtain rfl := Option.some.inj hnew
      exact absurd hpath (hu hne up hup)
    · exact hq j up' hne hj hpath
  · rcases update_cases (huploads ▸ hj) with ⟨rfl, hnew⟩ | ⟨-, hj⟩
    · obtain rfl := Option.some.inj hnew
      exact absurd (hfile.symm.trans (hq j up hne hup hpath)) nofun
    · exact hq j up' hne hj hpath
  · rcases update_cases (huploads ▸ hj) with ⟨-, hnew⟩ | ⟨-, hj⟩
    · exact absurd hnew nofun
    · exact hq j up' hne hj hpath
  · rcases update_cases (huploads ▸ hj) with ⟨-, hnew⟩ | ⟨-, hj⟩
    · exact absurd hnew nofun
    · exact hq j up' hne hj hpath
  · exact hq j up' hne (huploads ▸ hj) hpath

/-- What the path holds stays, when the step belongs to another upload. -/
theorem holds_step {s t : Server} {e : Event} {id : ℕ} {path : List Char} {i : ℕ}
    {bytes : List UInt8} (hs : s.Tidy) (hq : s.Quiet id path)
    (hother : e.concerns id = false) (hu : Undisturbed rt o id path s e)
    (h : (server rt o u).step s e = some t) (hholds : s.disk.Holds path i bytes) :
    t.disk.Holds path i bytes := by
  rcases server_step_cases h with ⟨hdisk, -⟩ | ⟨j, up, rfl, hup, -, hdisk, -⟩ |
    ⟨j, up, i', position, chunk, rfl, hup, hfile, hdisk, -⟩ | ⟨-, -, -, -, -, hdisk, -⟩ |
    ⟨j, up, rfl, hup, hdisk, -⟩ | ⟨role, key, path', rfl, hpath', hdisk, -⟩
  · rwa [hdisk]
  · have hne : j ≠ id := by simpa [Event.concerns] using hother
    rw [hdisk]
    exact (hholds.openTruncate_of_ne hs.wellFormed (hu hne up hup)).1
  · have hne : j ≠ id := by simpa [Event.concerns] using hother
    have hfiles : i' ≠ i := by
      rintro rfl
      have hsame := hs.owned ⟨j, up, position, hup, rfl, hfile⟩ hholds.1
      exact absurd (hfile.symm.trans (hq j up hne hup hsame.symm)) nofun
    rw [hdisk]
    exact hholds.write_of_ne hfiles 0 position chunk
  · rwa [hdisk]
  · have hne : j ≠ id := by simpa [Event.concerns] using hother
    rw [hdisk]
    exact hholds.unlink_of_ne (hu hne up hup)
  · rw [hdisk]
    refine hholds.unlink_of_ne fun heq => hu ?_
    rw [hpath', heq]

/-- The upload itself stays as it is, when the step belongs to another one. -/
theorem uploads_step {s t : Server} {e : Event} {id : ℕ} (hother : e.concerns id = false)
    (h : (server rt o u).step s e = some t) : t.uploads id = s.uploads id := by
  have hupdate : ∀ (j : ℕ) (new : Option Upload), j ≠ id →
      Function.update s.uploads j new id = s.uploads id := fun j new hne =>
    Function.update_of_ne (Ne.symm hne) new s.uploads
  rcases server_step_cases h with ⟨-, huploads | ⟨j, up, -, -, rfl, huploads⟩⟩ |
    ⟨j, up, rfl, -, -, -, huploads⟩ | ⟨j, up, i, position, chunk, rfl, -, -, -, huploads⟩ |
    ⟨j, up, rfl, -, -, -, huploads⟩ | ⟨j, up, rfl, -, -, huploads⟩ | ⟨-, -, -, -, -, -, huploads⟩
  · rw [huploads]
  · rw [huploads]
    exact hupdate j _ (by simpa [Event.concerns] using hother)
  · rw [huploads]
    exact hupdate j _ (by simpa [Event.concerns] using hother)
  · rw [huploads]
    exact hupdate j _ (by simpa [Event.concerns] using hother)
  · rw [huploads]
    exact hupdate j _ (by simpa [Event.concerns] using hother)
  · rw [huploads]
    exact hupdate j _ (by simpa [Event.concerns] using hother)
  · rw [huploads]

/-- **A step of another upload leaves this one where it stands.** -/
theorem At.other {s t : Server} {e : Event} {id : ℕ} {path : List Char} {phase : Phase}
    (hs : s.Tidy) (hq : s.Quiet id path) (hother : e.concerns id = false)
    (hu : Undisturbed rt o id path s e) (h : (server rt o u).step s e = some t)
    (hat : s.At id path phase) : t.At id path phase := by
  have huploads := uploads_step hother h
  cases phase with
  | waiting =>
    obtain ⟨up, hup, hpath, hfile⟩ := hat
    exact ⟨up, huploads.trans hup, hpath, hfile⟩
  | writing bytes =>
    obtain ⟨up, i, hup, hpath, hfile, hholds⟩ := hat
    exact ⟨up, i, huploads.trans hup, hpath, hfile, holds_step hs hq hother hu h hholds⟩
  | stored bytes =>
    obtain ⟨hup, i, hholds⟩ := hat
    exact ⟨huploads.trans hup, i, holds_step hs hq hother hu h hholds⟩

/-- **A step of its own takes an upload on as if it were alone.** -/
theorem At.own {s t : Server} {e : Event} {id : ℕ} {path : List Char} {phase phase' : Phase}
    (hown : e.concerns id = true) (halone : alone.step phase e = some phase')
    (h : (server rt o u).step s e = some t) (hat : s.At id path phase) : t.At id path phase' := by
  cases phase with
  | waiting =>
    cases e with
    | openFile j =>
      obtain rfl : j = id := by simpa [Event.concerns] using hown
      obtain rfl := Option.some.inj halone
      obtain ⟨⟨request, path', received, file⟩, hup, rfl, rfl⟩ := hat
      change s.openFile j = some t at h
      rw [Server.openFile, hup] at h
      obtain rfl := Option.some.inj h
      refine ⟨_, _, Function.update_self .., rfl, rfl, ?_⟩
      exact Disk.holds_openTruncate s.disk path'
    | _ => exact absurd halone nofun
  | writing bytes =>
    cases e with
    | data j chunk =>
      obtain rfl : j = id := by simpa [Event.concerns] using hown
      obtain rfl := Option.some.inj halone
      obtain ⟨⟨request, path', received, file⟩, i, hup, rfl, rfl, hholds⟩ := hat
      change s.data j chunk = some t at h
      rw [Server.data, hup] at h
      dsimp only at h
      split_ifs at h
      obtain rfl := Option.some.inj h
      refine ⟨_, i, Function.update_self .., rfl, ?_, hholds.write 0 chunk⟩
      rw [List.length_append]
    | finish j =>
      obtain rfl : j = id := by simpa [Event.concerns] using hown
      obtain rfl := Option.some.inj halone
      obtain ⟨⟨request, path', received, file⟩, i, hup, rfl, rfl, hholds⟩ := hat
      change s.finish j = some t at h
      rw [Server.finish, hup] at h
      dsimp only at h
      split_ifs at h
      obtain rfl := Option.some.inj h
      exact ⟨Function.update_self .., i, hholds⟩
    | _ => exact absurd halone nofun
  | stored bytes => cases e <;> exact absurd halone nofun

end Server

theorem Server.put_of_ok {s : Server} {id : ℕ} {request : UploadRequest} {path : List Char}
    (hid : s.uploads id = none) (hpath : uploadLocal rt o s.now request = .ok path) :
    s.put rt o id request = some (s.setUpload id (some ⟨request, path, 0, none⟩)) := by
  rw [Server.put, hid, hpath]

/-- An upload that passed the checks. -/
theorem Server.at_put {s s₁ : Server} {id : ℕ} {request : UploadRequest} {path : List Char}
    (hid : s.uploads id = none) (hpath : uploadLocal rt o s.now request = .ok path)
    (h : (server rt o u).step s (.put id request) = some s₁) : s₁.At id path .waiting := by
  obtain rfl := Option.some.inj ((Server.put_of_ok hid hpath).symm.trans h)
  exact ⟨_, Function.update_self .., rfl, rfl⟩

/-- **An upload that nobody disturbs is as if it were alone.**  Its own events, taken out of the
run, say where it stands at the end. -/
theorem at_of_alone {id : ℕ} {path : List Char} {s t : Server} {es : List Event}
    {phase phase' : Phase} (hs : s.Tidy) (hq : s.Quiet id path) (hat : s.At id path phase)
    (hu : (server rt o u).Meets (Undisturbed rt o id path) s es)
    (halone : alone.run phase (es.filter (·.concerns id)) = some phase')
    (hrun : (server rt o u).run s es = some t) : t.At id path phase' := by
  induction es generalizing s phase with
  | nil =>
    obtain rfl := Option.some.inj hrun
    obtain rfl := Option.some.inj halone
    exact hat
  | cons e es ih =>
    obtain ⟨s', hstep, hrun⟩ := (Machine.run_cons_eq_some _).1 hrun
    obtain ⟨hue, hu⟩ := hu
    have hs' := hs.step hstep
    have hq' := hq.step hue hstep
    by_cases hown : e.concerns id = true
    · rw [List.filter_cons_of_pos hown] at halone
      obtain ⟨next, hnext, halone⟩ := (Machine.run_cons_eq_some _).1 halone
      exact ih hs' hq' (hat.own hown hnext hstep) (hu s' hstep) halone hrun
    · rw [List.filter_cons_of_neg hown] at halone
      rw [Bool.not_eq_true] at hown
      exact ih hs' hq' (hat.other hs hq hown hue hstep) (hu s' hstep) halone hrun

/-- **What was uploaded is what is stored**, when nobody else opens the path, fails on it or
removes it, whatever else happens in between. -/
theorem read_of_transfer {id : ℕ} {path : List Char} {s t : Server} {es : List Event}
    {chunks : List (List UInt8)} (hs : s.Tidy) (hq : s.Quiet id path)
    (hat : s.At id path .waiting) (hu : (server rt o u).Meets (Undisturbed rt o id path) s es)
    (hown : es.filter (·.concerns id) = .openFile id :: (chunks.map (.data id) ++ [.finish id]))
    (hrun : (server rt o u).run s es = some t) : t.disk.read path = some chunks.flatten := by
  obtain ⟨-, i, hholds⟩ : t.At id path (.stored chunks.flatten) :=
    at_of_alone hs hq hat hu (by rw [hown, alone_run]) hrun
  exact hholds.read

/-! ### Presigned uploads -/

/-- The request that a client makes of a presigned upload, with the length it declares. -/
def uploadRequest (lossy : List UInt8 → String) (presigned : PresignedUpload)
    (contentLength : Option String) : UploadRequest :=
  ⟨param lossy presigned.uploadUrl "key", param lossy presigned.uploadUrl "exp",
    param lossy presigned.uploadUrl "sig", presigned.requiredHeaders.lookup "Content-Type",
    contentLength⟩

theorem uploadRequest_presignUpload (hurl : '?' ∉ o.publicApiUrl.toList)
    (lossy : List UInt8 → String) (now : Millis) (request : PresignRequest)
    (contentLength : Option String) :
    uploadRequest lossy (presignUpload rt o now request) contentLength =
      ⟨request.key, rt.string (unixSeconds now + presignTtlSeconds),
        sign rt o request.key (unixSeconds now + presignTtlSeconds), some request.contentType,
        contentLength⟩ := by
  obtain ⟨hkey, hexp, hsig⟩ := @param_uploadUrl rt o lossy hurl now request
  rw [uploadRequest, hkey, hexp, hsig]
  rfl

theorem mediaType_allowed : ∀ contentType ∈ allowedContentTypes.map Prod.fst,
    mediaType contentType = contentType := by decide +kernel

/-- **A presigned upload passes the checks** until it expires. -/
theorem uploadLocal_presigned (hrt : rt.Lawful) {ns : List (List Char)}
    (hns : ∀ n ∈ ns, Ordinary n) (hroot : root rt o = location ns) (hne : ns ≠ [])
    (hurl : '?' ∉ o.publicApiUrl.toList) (lossy : List UInt8 → String) {granted now : Millis}
    (hgranted : granted ≤ maxDate) (hnow : unixSeconds now ≤ unixSeconds granted + presignTtlSeconds)
    (p : Presigned) {contentType : String} (htype : contentType ∈ allowedContentTypes.map Prod.fst)
    {contentLength : Option String}
    (hlength : ∀ n, rt.parseInt (contentLength.getD "0") = some n → n ≤ maxUploadBytes) :
    uploadLocal rt o now (uploadRequest lossy
      (presignUpload rt o granted ⟨p.key, contentType, maxUploadBytes⟩) contentLength) =
      .ok (location (ns ++ p.names)) := by
  rw [uploadRequest_presignUpload hurl, uploadLocal_eq_ok_iff]
  have hparse : rt.parseInt (rt.string (unixSeconds granted + presignTtlSeconds)) =
      some (unixSeconds granted + presignTtlSeconds : ℤ) := by
    have hsmall : unixSeconds granted + presignTtlSeconds < 2 ^ 53 := by
      have hdate : ∀ n : ℕ, n ≤ 8640000000000000 → n / 1000 + 900 < 2 ^ 53 := fun n hn => by omega
      exact hdate granted hgranted
    simpa using hrt.parseInt_string _ hsmall
  refine ⟨?_, ?_, ?_, ?_, p.resolveKey_key hns hroot hne⟩
  · have hsign : sign rt o p.key (unixSeconds granted + presignTtlSeconds) ≠ "" := by
      intro hempty
      have hbytes := hrt.hmac_length o.signingSecret
        (message rt p.key (unixSeconds granted + presignTtlSeconds))
      have hread := ofHex_hex (rt.hmac o.signingSecret
        (message rt p.key (unixSeconds granted + presignTtlSeconds)))
      rw [← String.toList_ofList (l := hex _), ← sign, hempty] at hread
      rw [← hread] at hbytes
      exact absurd hbytes (by decide)
    simp [checkPresent, p.key_ne_empty, hsign, hrt.string_ne_empty]
  · rw [hparse]
    exact verifyUploadSignature_sign (by exact_mod_cast hnow)
  · show checkContentType (some contentType) = .ok ()
    simp [checkContentType, mediaType_allowed contentType htype, htype]
  · rw [checkContentLength]
    split
    · rfl
    next n hn => rw [if_neg (Int.not_lt.2 (hlength n hn))]

theorem find_jpeg : allowedContentTypes.find? (fun entry => entry.2 = "jpeg") = none := by decide

/-- **What is sent to a presigned URL is what its public URL serves.**  The request goes out
while the link is valid and declares no more than the limit; nobody else opens the path, fails
on it or removes it until the file is asked for, whatever else happens in between.  The content
type is the one presigned, but for a name that ends in `.jpeg`. -/
theorem serve_presigned (hrt : rt.Lawful)
    (hu : ∀ s : String, s.toList.all isSlugChar = true → u.toLowerCase s = s)
    {ns : List (List Char)} (hns : ∀ n ∈ ns, Ordinary n) (hroot : root rt o = location ns)
    (hne : ns ≠ []) (hurl : '?' ∉ o.publicApiUrl.toList) (lossy : List UInt8 → String)
    {granted : Millis} {role : Option UserRole} {dto : PresignUploadDto} {uuid : Uuid}
    {result : PresignResult} (hpresign : presign rt o u granted role dto uuid = .ok result)
    (hgranted : granted ≤ maxDate) {s t : Server} {id : ℕ}
    (hnow : unixSeconds s.now ≤ unixSeconds granted + presignTtlSeconds) (hs : s.Tidy)
    (hid : s.uploads id = none)
    (hquiet : ∀ path, resolveKey rt o result.presigned.key = .ok path → s.Quiet id path)
    {contentLength : Option String}
    (hlength : ∀ n, rt.parseInt (contentLength.getD "0") = some n → n ≤ maxUploadBytes)
    {es : List Event} {chunks : List (List UInt8)}
    (hundisturbed : ∀ path, resolveKey rt o result.presigned.key = .ok path →
      (server rt o u).Meets (Undisturbed rt o id path) s
        (.put id (uploadRequest lossy result.presigned contentLength) :: es))
    (hown : es.filter (·.concerns id) = .openFile id :: (chunks.map (.data id) ++ [.finish id]))
    (hrun : (server rt o u).run s
      (.put id (uploadRequest lossy result.presigned contentLength) :: es) = some t) :
    ∃ p : Presigned, result.presigned.key = p.key ∧
      serveLocal rt o u t (param lossy result.presigned.publicUrl "key") =
        .ok ⟨if p.extension = "jpeg" then "application/octet-stream" else dto.contentType,
          chunks.flatten.length, chunks.flatten⟩ := by
  obtain ⟨-, p, -, -, rfl, hstands⟩ := exists_presigned hpresign
  have hkey := p.resolveKey_key hns hroot hne
  have hupload := uploadLocal_presigned hrt hns hroot hne hurl lossy hgranted hnow p
    dto.contentType_mem hlength
  obtain ⟨s₁, hput, hrest⟩ := (Machine.run_cons_eq_some _).1 hrun
  have hmeets := hundisturbed _ hkey
  have hread := read_of_transfer (hs.step hput) ((hquiet _ hkey).step hmeets.1 hput)
    (Server.at_put hid hupload hput) (hmeets.2 s₁ hput) hown hrest
  have hserved : servedContentType u p.key =
      if p.extension = "jpeg" then "application/octet-stream" else dto.contentType := by
    rw [p.servedContentType_key hu]
    rcases hstands with hfind | ⟨-, hjpeg⟩
    · have hother : p.extension ≠ "jpeg" := by
        intro hjpeg
        rw [hjpeg, find_jpeg] at hfind
        exact absurd hfind nofun
      rw [hfind, if_neg hother]
      rfl
    · rw [hjpeg, find_jpeg, if_pos rfl]
      rfl
  refine ⟨p, rfl, ?_⟩
  have hparam := param_publicUrl lossy hurl p.key
  show serveLocal rt o u t (param lossy (publicUrl o p.key) "key") = _
  rw [hparam, serveLocal, if_neg p.key_ne_empty, hkey]
  dsimp only
  rw [hread, hserved]

/-! ### A picture of an agent -/

/-- The new name. -/
def demoUuid : Uuid := ⟨"0b9f6c1e-2a34-4d56-9e78-123456789abc", by decide⟩

/-- What the agent asks for. -/
def demoDto : PresignUploadDto :=
  ⟨"me.png", "image/png", "avatars", by decide, by decide, by decide, by decide⟩

/-- The key made up for it. -/
def demoKey : Presigned := ⟨"avatars", demoUuid, "png", by decide, by decide⟩

/-- What is presigned. -/
def demoResult : PresignResult :=
  ⟨presignUpload demoRuntime demoOptions 0 ⟨demoKey.key, "image/png", maxUploadBytes⟩, "local",
    maxUploadBytes⟩

theorem extensionFor_demo : extensionFor .ascii "image/png" "me.png" = .ok "png" := by decide

theorem presign_demo :
    presign demoRuntime demoOptions .ascii 0 (some .agent) demoDto demoUuid = .ok demoResult := by
  rw [presign, Fallible.bind_eq_ok]
  refine ⟨(), by decide, ?_⟩
  rw [Fallible.bind_eq_ok]
  exact ⟨"png", extensionFor_demo, rfl⟩

/-- The request for it. -/
def demoRequest : UploadRequest := uploadRequest (fun _ => "") demoResult.presigned none

/-- The picture is sent in two chunks. -/
def demoEvents : List Event := [.openFile 0, .data 0 [137, 80], .data 0 [78, 71], .finish 0]

theorem put_demo (s : Server) (hnow : s.now = 0) (hid : s.uploads 0 = none) :
    (server demoRuntime demoOptions .ascii).step s (.put 0 demoRequest) =
      some (s.setUpload 0
        (some ⟨demoRequest, location (demoNames ++ demoKey.names), 0, none⟩)) := by
  refine Server.put_of_ok hid ?_
  rw [hnow]
  exact uploadLocal_presigned lawful_demoRuntime ordinary_demoNames root_demo (by decide)
    (by decide) (fun _ => "") (Nat.zero_le _) (Nat.zero_le _) demoKey (by decide) (by decide)

theorem run_demo : ∃ t, (server demoRuntime demoOptions .ascii).run (.start 0)
    (.put 0 demoRequest :: demoEvents) = some t := by
  rw [Machine.run, put_demo _ rfl rfl]
  exact ⟨_, rfl⟩

theorem demoRequest_eq : demoRequest = ⟨demoKey.key, demoRuntime.string 900,
    sign demoRuntime demoOptions demoKey.key 900, some "image/png", none⟩ :=
  uploadRequest_presignUpload (by decide) _ 0 _ none

/-- The link is asked for first, and the request that comes with it is sent to it. -/
theorem written_by_presigned_demo :
    ∃ s, (server demoRuntime demoOptions .ascii).run (.start 0)
        (.presign (some .agent) demoDto demoUuid :: .put 0 demoRequest :: demoEvents) = some s ∧
      ∀ path i, s.disk.entries path = some i → ∃ g ∈ s.grants, MayPresign g.role ∧
        ∃ p : Presigned, g.key = p.key ∧ path = location (demoNames ++ p.names) := by
  have hpresign : (server demoRuntime demoOptions .ascii).step (.start 0)
      (.presign (some .agent) demoDto demoUuid) =
      some { Server.start 0 with grants := [⟨some .agent, demoKey.key, 900⟩] } := by
    show some (Server.presign _ _ _ _ _ _ _) = _
    rw [Server.presign, show (Server.start 0).now = 0 from rfl, presign_demo]
    rfl
  have hrun : ∃ s, (server demoRuntime demoOptions .ascii).run (.start 0)
      (.presign (some .agent) demoDto demoUuid :: .put 0 demoRequest :: demoEvents) = some s := by
    rw [Machine.run, hpresign, Option.bind_some, Machine.run, put_demo _ rfl rfl]
    exact ⟨_, rfl⟩
  obtain ⟨s, hs⟩ := hrun
  refine ⟨s, hs, (written_by_presigned lawful_demoRuntime ordinary_demoNames root_demo ?_ hs).2⟩
  refine ⟨trivial, fun t ht => ?_⟩
  obtain rfl := Option.some.inj (hpresign.symm.trans ht)
  refine ⟨fun exp hexp _ => ⟨_, List.mem_singleton_self _, ?_⟩, fun t ht => ?_⟩
  · have hparse : demoRuntime.parseInt (demoRuntime.string 900) = some 900 :=
      lawful_demoRuntime.parseInt_string 900 (by decide)
    rw [demoRequest_eq] at hexp ⊢
    rw [← Option.some.inj (hparse.symm.trans hexp)]
  · have hrest : ∀ e ∈ demoEvents, ∀ s, Unforged demoRuntime demoOptions s e := by
      simp [demoEvents, Unforged]
    have hkeep : ∀ (s : Server) (e : Event) (t : Server), True →
        (∀ s, Unforged demoRuntime demoOptions s e) →
        (server demoRuntime demoOptions .ascii).step s e = some t → True :=
      fun _ _ _ _ _ _ => trivial
    exact Machine.Meets.of_invariant hkeep (fun s e _ he => he s) _ trivial
      (Machine.Meets.of_forall_mem _ hrest)

theorem toLowerCase_ascii (s : String) (h : s.toList.all isSlugChar = true) :
    Unicode.ascii.toLowerCase s = s := by
  have hchar : ∀ c ∈ s.toList, c.toLower = c := by
    intro c hc
    have hcode := toNat_of_slugChar (.inl (List.all_eq_true.1 h c hc))
    refine dif_neg fun hupper => ?_
    have hlow : 65 ≤ c.toNat := UInt32.le_iff_toNat_le.1 hupper.1
    have hhigh : c.toNat ≤ 90 := UInt32.le_iff_toNat_le.1 hupper.2
    omega
  show String.ofList (s.toList.map Char.toLower) = s
  rw [List.map_congr_left hchar, List.map_id', String.ofList_toList]

theorem serve_presigned_demo : ∃ t, (server demoRuntime demoOptions .ascii).run (.start 0)
      (.put 0 demoRequest :: demoEvents) = some t ∧
    ∃ p : Presigned, demoResult.presigned.key = p.key ∧
      serveLocal demoRuntime demoOptions .ascii t
          (param (fun _ => "") demoResult.presigned.publicUrl "key") =
        .ok ⟨if p.extension = "jpeg" then "application/octet-stream" else "image/png", 4,
          [137, 80, 78, 71]⟩ := by
  obtain ⟨t, ht⟩ := run_demo
  refine ⟨t, ht, ?_⟩
  have hquiet : ∀ e ∈ Event.put 0 demoRequest :: demoEvents, ∀ path s,
      Undisturbed demoRuntime demoOptions 0 path s e := by
    simp [demoEvents, Undisturbed]
  have hown : demoEvents.filter (·.concerns 0) =
      .openFile 0 :: ([[137, 80], [78, 71]].map (.data 0) ++ [.finish 0]) := rfl
  refine serve_presigned lawful_demoRuntime toLowerCase_ascii ordinary_demoNames root_demo
    (by decide) (by decide) (fun _ => "") presign_demo (Nat.zero_le _) (Nat.zero_le _)
    (Server.tidy_start 0) rfl (fun path _ j up _ h => absurd h nofun) (by decide)
    (fun path _ => ?_) hown ht
  have hkeep : ∀ (s : Server) (e : Event) (t : Server), True →
      (∀ path s, Undisturbed demoRuntime demoOptions 0 path s e) →
      (server demoRuntime demoOptions .ascii).step s e = some t → True :=
    fun _ _ _ _ _ _ => trivial
  exact Machine.Meets.of_invariant hkeep (fun s e _ he => he path s) _ trivial
    (Machine.Meets.of_forall_mem _ hquiet)

end Uploads
end TopChoice
