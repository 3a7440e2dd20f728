/-
# The local storage driver

`apps/api-core/src/modules/uploads/storage/local.driver.ts`, and the limits of
`storage.driver.ts`.

The working directory, HMAC-SHA256 and the texts of whole numbers are parameters
(`Runtime`); `node:path` is `PosixPath`, `URLSearchParams` is `FormUrlEncoded`.  A key is
walked from the upload directory, and the driver takes it exactly when the walk ends in the
directory or below it (`resolveKey_eq_ok_iff`).  What a presigned URL carries passes the
check of the signature until it expires (`verifyUploadSignature_sign`).
-/

import TopChoice.Auth.Store
import TopChoice.Common.AppException
import TopChoice.Common.Text
import TopChoice.Lib.FormUrlEncoded
import TopChoice.Lib.PosixPath
import TopChoice.Web.SearchFilters

namespace TopChoice
namespace Uploads

open Auth PosixPath

/-! ### Errors -/

/-- `ERROR_CODES`, the codes of the upload endpoints. -/
inductive UploadCode where
  | badRequest
  | unauthorized
  | insufficientRole
  | notFound
  | unsupportedMediaType
  | payloadTooLarge
  | invalidIdentifier
  | uploadFailed
  deriving DecidableEq, Repr

/-- An `AppException` of the upload endpoints. -/
structure UploadException where
  status : ℕ
  code : UploadCode
  message : String
  details : List ApiErrorDetail
  deriving DecidableEq, Repr

/-! ### What the driver gets from the runtime -/

/-- The working directory, the digest and the numbers. -/
structure Runtime where
  /-- `process.cwd()`. -/
  cwd : List Char
  /-- The digest of `createHmac('sha256', secret).update(message)`. -/
  hmac : String → String → List UInt8
  /-- `Number.parseInt(text, 10)`, where that is a finite number. -/
  parseInt : String → Option ℤ
  /-- `String` of a whole number. -/
  string : ℤ → String

/-- What is known of them: the working directory is absolute; a digest has 32 bytes; a whole
number that a double holds exactly is read back from its text; different numbers have different
texts, none of them empty or with a colon. -/
structure Runtime.Lawful (rt : Runtime) : Prop where
  cwd_absolute : isAbsolute rt.cwd = true
  hmac_length : ∀ secret m, (rt.hmac secret m).length = 32
  parseInt_string : ∀ n : ℕ, n < 2 ^ 53 → rt.parseInt (rt.string n) = some (n : ℤ)
  string_injective : Function.Injective rt.string
  string_ne_empty : ∀ z, rt.string z ≠ ""
  string_plain : ∀ z, ':' ∉ (rt.string z).toList

/-- A date is at most `8.64e15` milliseconds after the epoch. -/
def maxDate : Millis := 8640000000000000

/-! ### Hexadecimal texts -/

/-- A lower-case digit. -/
def lowerHex (n : ℕ) : Char := if n < 10 then Char.ofNat (48 + n) else Char.ofNat (87 + n)

/-- `digest('hex')`. -/
def hex (bytes : List UInt8) : List Char :=
  bytes.flatMap fun b => [lowerHex (b.toNat / 16), lowerHex (b.toNat % 16)]

/-- `Buffer.from(text, 'hex')`: it stops at the first two characters that are no byte. -/
def ofHex : List Char → List UInt8
  | high :: low :: cs =>
      match FormUrlEncoded.hexValue high, FormUrlEncoded.hexValue low with
      | some h, some l => UInt8.ofNat (16 * h + l) :: ofHex cs
      | _, _ => []
  | _ => []

theorem hexValue_lowerHex : ∀ n < 16, FormUrlEncoded.hexValue (lowerHex n) = some n := by decide

/-- **A digest is read back from its text.** -/
theorem ofHex_hex (bytes : List UInt8) : ofHex (hex bytes) = bytes := by
  induction bytes with
  | nil => rfl
  | cons b bytes ih =>
    have hlt := b.toNat_lt
    have hhigh := hexValue_lowerHex (b.toNat / 16) (by omega)
    have hlow := hexValue_lowerHex (b.toNat % 16) (by omega)
    show ofHex (lowerHex (b.toNat / 16) :: lowerHex (b.toNat % 16) :: hex bytes) = _
    simp only [ofHex, hhigh, hlow, ih, Nat.div_add_mod, UInt8.ofNat_toNat]

/-! ### The driver -/

/-- `PRESIGN_TTL_SECONDS`. -/
def presignTtlSeconds : ℕ := 900

/-- `MAX_UPLOAD_BYTES`: 15 MiB. -/
def maxUploadBytes : ℕ := 15 * 1024 * 1024

/-- `LocalDriverOptions`. -/
structure LocalDriverOptions where
  rootDir : String
  publicApiUrl : String
  signingSecret : String

/-- `PresignRequest`. -/
structure PresignRequest where
  key : String
  contentType : String
  maxSizeBytes : ℕ

/-- `PresignedUpload`. -/
structure PresignedUpload where
  uploadUrl : String
  key : String
  publicUrl : String
  expiresIn : ℕ
  requiredHeaders : List (String × String)
  deriving DecidableEq, Repr

variable (rt : Runtime) (o : LocalDriverOptions)

/-- `${key}:${expiresAt}`, what is signed. -/
def message (key : String) (expiresAt : ℤ) : String := key ++ ":" ++ rt.string expiresAt

/-- `sign`. -/
def sign (key : String) (expiresAt : ℤ) : String :=
  String.ofList (hex (rt.hmac o.signingSecret (message rt key expiresAt)))

/-- The characters `encodeURIComponent` leaves as they are, besides letters and digits. -/
def uriMarks : List UInt8 := [0x2D, 0x5F, 0x2E, 0x21, 0x7E, 0x2A, 0x27, 0x28, 0x29]

/-- The bytes `encodeURIComponent` leaves as they are. -/
def isUriByte (b : UInt8) : Bool :=
  (0x30 ≤ b && b ≤ 0x39) || (0x41 ≤ b && b ≤ 0x5A) || (0x61 ≤ b && b ≤ 0x7A) || b ∈ uriMarks

/-- One byte of `encodeURIComponent`. -/
def encodeByte (b : UInt8) : List Char :=
  if isUriByte b then [Char.ofNat b.toNat]
  else ['%', FormUrlEncoded.hexDigit (b.toNat / 16), FormUrlEncoded.hexDigit (b.toNat % 16)]

/-- `encodeURIComponent`. -/
def encodeURIComponent (s : String) : String :=
  String.ofList ((FormUrlEncoded.utf8 s).flatMap encodeByte)

/-- `publicUrl`. -/
def publicUrl (key : String) : String :=
  o.publicApiUrl ++ "/uploads/file?key=" ++ encodeURIComponent key

/-- The query of an upload URL. -/
def uploadParams (key : String) (expiresAt : ℤ) : List (String × String) :=
  [("key", key), ("exp", rt.string expiresAt), ("sig", sign rt o key expiresAt)]

/-- `presignUpload`. -/
def presignUpload (now : Millis) (request : PresignRequest) : PresignedUpload :=
  let expiresAt := unixSeconds now + presignTtlSeconds
  { uploadUrl := o.publicApiUrl ++ "/uploads/local?" ++
      FormUrlEncoded.print (uploadParams rt o request.key expiresAt)
    key := request.key
    publicUrl := publicUrl o request.key
    expiresIn := presignTtlSeconds
    requiredHeaders := [("Content-Type", request.contentType)] }

/-- `verifyUploadSignature`; `expiresAt` is nothing when it is not finite. -/
def verifyUploadSignature (now : Millis) (key : String) (expiresAt : Option ℤ) (signature : String) :
    Except UploadException Unit :=
  match expiresAt with
  | none => .error ⟨403, .uploadFailed, "This upload link has expired", []⟩
  | some exp =>
      if exp < unixSeconds now then .error ⟨403, .uploadFailed, "This upload link has expired", []⟩
      else if ofHex (sign rt o key exp).toList = ofHex signature.toList then .ok ()
      else .error ⟨403, .uploadFailed, "Invalid upload signature", []⟩

/-- `resolve(this.options.rootDir)`. -/
def root : List Char := resolve rt.cwd o.rootDir.toList

/-- `resolveKey`. -/
def resolveKey (key : String) : Except UploadException (List Char) :=
  let target := resolve rt.cwd (join [root rt o, normalize key.toList])
  if target ≠ root rt o ∧ ¬ root rt o ++ ['/'] <+: target then
    .error ⟨400, .invalidIdentifier, "Invalid object key", []⟩
  else .ok target

/-! ### Where a key leads -/

variable {rt} {o}

/-- The upload directory is a location. -/
theorem exists_root (hrt : rt.Lawful) :
    ∃ ns : List (List Char), (∀ n ∈ ns, Ordinary n) ∧ root rt o = location ns :=
  exists_resolve_eq_location hrt.cwd_absolute o.rootDir.toList

/-- Nothing is below the text `//`. -/
theorem not_below_top {ns : List (List Char)} (hns : ∀ n ∈ ns, Ordinary n) :
    ¬ location [] ++ ['/'] <+: location ns := by
  rintro ⟨rest, hrest⟩
  have hnames := names_location fun n hn => (hns n hn).2.2.2
  have hsplit : names (location [] ++ ['/'] ++ rest) = [] :: [] :: names rest := by
    show names ([] ++ '/' :: ([] ++ '/' :: rest)) = _
    rw [names_append_slash, names_append_slash]
    rfl
  rw [← hrest, hsplit, List.cons.injEq] at hnames
  have hrestne : names rest ≠ [] := List.splitOn_ne_nil '/' rest
  split_ifs at hnames with hnil
  · simp [hrestne] at hnames
  · exact (hns [] (by rw [← hnames.2]; simp)).1 rfl

/-- What the driver compares: the directory, or a text below it. -/
theorem inside_iff {ns ms : List (List Char)} (hns : ∀ n ∈ ns, Ordinary n)
    (hms : ∀ n ∈ ms, Ordinary n) :
    (location ms = location ns ∨ location ns ++ ['/'] <+: location ms) ↔
      ns <+: ms ∧ (ns = [] → ms = []) := by
  have hsame : location ms = location ns ↔ ms = ns :=
    ⟨fun h => location_injective hms hns h, fun h => by rw [h]⟩
  rw [hsame]
  by_cases hempty : ns = []
  · subst hempty
    simp [not_below_top hms]
  · rw [location_below_iff hns hempty hms]
    constructor
    · rintro (rfl | ⟨hbelow, -⟩)
      · exact ⟨List.prefix_rfl, fun h => h⟩
      · exact ⟨hbelow, fun h => absurd h hempty⟩
    · rintro ⟨hbelow, -⟩
      by_cases heq : ms = ns
      · exact .inl heq
      · exact .inr ⟨hbelow, fun h => heq h.symm⟩

/-- **No key leads out of the upload directory.**  A key is taken exactly when its names,
walked from the directory, lead to it or below it; the path is the location they lead to. -/
theorem resolveKey_eq_ok_iff {ns : List (List Char)} (hns : ∀ n ∈ ns, Ordinary n)
    (hroot : root rt o = location ns) (key : String) (target : List Char) :
    resolveKey rt o key = .ok target ↔
      target = location (follow ns key.toList) ∧ ns <+: follow ns key.toList ∧
        (ns = [] → follow ns key.toList = []) := by
  have hinside := inside_iff hns (forall_ordinary_follow hns key.toList)
  rw [← hinside, resolveKey, hroot, resolve_join_normalize hns]
  split_ifs with hout
  · simp only [false_iff]
    rintro ⟨-, hin | hin⟩
    · exact hout.1 hin
    · exact hout.2 hin
  · rw [not_and_or, not_not, not_not] at hout
    constructor
    · intro h
      exact ⟨(Except.ok.inj h).symm, hout⟩
    · rintro ⟨rfl, -⟩
      rfl

/-- A working directory, the digest of one message, and numbers in decimal. -/
def demoRuntime : Runtime where
  cwd := "/srv/app".toList
  hmac := fun _ _ =>
    [76, 5, 48, 173, 46, 230, 128, 239, 89, 107, 98, 167, 10, 91, 75, 140, 99, 146, 32, 71, 167,
      194, 39, 195, 230, 102, 228, 241, 41, 155, 79, 149]
  parseInt s := some (Web.readDecimal s.toList)
  string z := String.ofList (Web.decimal z)

theorem toList_string_demo (z : ℤ) : (demoRuntime.string z).toList = Web.decimal z :=
  String.toList_ofList

theorem lawful_demoRuntime : demoRuntime.Lawful where
  cwd_absolute := rfl
  hmac_length _ _ := rfl
  parseInt_string n _ := by
    show some (Web.readDecimal (demoRuntime.string n).toList) = _
    rw [toList_string_demo, Web.readDecimal_decimal]
  string_injective z w h := by
    rw [← Web.readDecimal_decimal z, ← toList_string_demo, h, toList_string_demo,
      Web.readDecimal_decimal]
  string_ne_empty z h := by
    have hlist := toList_string_demo z
    rw [h] at hlist
    exact Web.decimal_ne_nil z hlist.symm
  string_plain z h := by
    rw [toList_string_demo] at h
    rcases Web.mem_decimal h with hdigit | hdash
    · exact absurd hdigit (by decide)
    · exact absurd hdash (by decide)

/-- An upload directory. -/
def demoOptions : LocalDriverOptions := ⟨"/srv/app/uploads", "https://localhost/api/v1", "secret"⟩

/-- The names of the directory. -/
def demoNames : List (List Char) := ["srv".toList, "app".toList, "uploads".toList]

theorem ordinary_demoNames : ∀ n ∈ demoNames, Ordinary n := by decide

theorem root_demo : root demoRuntime demoOptions = location demoNames := by decide

/-- A key that goes up and down again inside the directory. -/
theorem resolveKey_demo : resolveKey demoRuntime demoOptions "avatars/../areas/./map.png" =
    .ok (location (demoNames ++ ["areas".toList, "map.png".toList])) :=
  (resolveKey_eq_ok_iff ordinary_demoNames root_demo _ _).2 (by decide)

/-- A key made of ordinary names leads down from the directory. -/
theorem resolveKey_text {ns ms : List (List Char)} (hns : ∀ n ∈ ns, Ordinary n)
    (hroot : root rt o = location ns) (hne : ns ≠ []) {key : String} (hkey : key.toList = text ms)
    (hms : ∀ n ∈ ms, Ordinary n) (hms' : ms ≠ []) :
    resolveKey rt o key = .ok (location (ns ++ ms)) := by
  rw [resolveKey_eq_ok_iff hns hroot, hkey, follow_text hms hms']
  exact ⟨rfl, List.prefix_append _ _, fun h => absurd h hne⟩

/-! ### Signatures -/

/-- **A signature passes the check until it expires.** -/
theorem verifyUploadSignature_sign {now : Millis} {key : String} {exp : ℤ}
    (h : (unixSeconds now : ℤ) ≤ exp) :
    verifyUploadSignature rt o now key (some exp) (sign rt o key exp) = .ok () := by
  simp [verifyUploadSignature, Int.not_lt.2 h]

/-- What passes the check has not expired and carries the digest of its message. -/
theorem of_verifyUploadSignature {now : Millis} {key signature : String} {expiresAt : Option ℤ}
    (h : verifyUploadSignature rt o now key expiresAt signature = .ok ()) :
    ∃ exp, expiresAt = some exp ∧ (unixSeconds now : ℤ) ≤ exp ∧
      ofHex signature.toList = rt.hmac o.signingSecret (message rt key exp) := by
  unfold verifyUploadSignature at h
  split at h
  · exact absurd h nofun
  next exp =>
    split_ifs at h with hexpired hsame
    refine ⟨exp, rfl, Int.not_lt.1 hexpired, ?_⟩
    rw [← hsame, sign, String.toList_ofList, ofHex_hex]

/-- **The message says which key it is for, and until when.** -/
theorem message_injective (hrt : rt.Lawful) {key other : String} {exp until_ : ℤ}
    (h : message rt key exp = message rt other until_) : key = other ∧ exp = until_ := by
  have hlists : (rt.string exp).toList.reverse ++ ':' :: key.toList.reverse =
      (rt.string until_).toList.reverse ++ ':' :: other.toList.reverse := by
    have hreverse := congrArg (fun s : String => s.toList.reverse) h
    simpa [message] using hreverse
  have hplain : ∀ (z : ℤ) (rest : List Char),
      ((rt.string z).toList.reverse ++ ':' :: rest).takeWhile (· ≠ ':') =
        (rt.string z).toList.reverse := by
    intro z rest
    have hkept : ∀ c ∈ (rt.string z).toList.reverse, decide (c ≠ ':') = true := by
      intro c hc
      rw [decide_eq_true_eq]
      rintro rfl
      exact hrt.string_plain z (List.mem_reverse.1 hc)
    rw [List.takeWhile_append_of_pos hkept]
    simp
  have hnumber : (rt.string exp).toList.reverse = (rt.string until_).toList.reverse := by
    rw [← hplain exp key.toList.reverse, hlists, hplain]
  constructor
  · rw [hnumber, List.append_cancel_left_eq, List.cons.injEq] at hlists
    exact String.toList_injective (List.reverse_injective hlists.2)
  · exact hrt.string_injective (String.toList_injective (List.reverse_injective hnumber))

/-! ### URLs -/

/-- Such a byte is an ASCII character that a reader leaves as it is, and joins nothing. -/
theorem uri_byte : ∀ n < 256, isUriByte (UInt8.ofNat n) = true →
    (Char.ofNat n ≠ '+' ∧ Char.ofNat n ≠ '%' ∧
      String.utf8EncodeChar (Char.ofNat n) = [UInt8.ofNat n]) ∧
    Char.ofNat n ≠ '&' ∧ Char.ofNat n ≠ '=' ∧ Char.ofNat n ≠ '?' := by
  decide +kernel

theorem readBytes_encodeByte (b : UInt8) (cs : List Char) :
    FormUrlEncoded.readBytes (encodeByte b ++ cs) = b :: FormUrlEncoded.readBytes cs := by
  unfold encodeByte
  split_ifs with hplain
  · have hbyte := uri_byte b.toNat b.toNat_lt
    rw [UInt8.ofNat_toNat] at hbyte
    obtain ⟨hplus, hpercent, hutf8⟩ := (hbyte hplain).1
    rw [List.singleton_append, FormUrlEncoded.readBytes_cons hplus hpercent, hutf8]
    rfl
  · have hlt := b.toNat_lt
    have hhigh := FormUrlEncoded.hexValue_hexDigit (b.toNat / 16) (by omega)
    have hlow := FormUrlEncoded.hexValue_hexDigit (b.toNat % 16) (by omega)
    simp only [List.cons_append, List.nil_append, FormUrlEncoded.readBytes, hhigh, hlow,
      Nat.div_add_mod, UInt8.ofNat_toNat]

/-- **A key is read back from its public URL.** -/
theorem read_encodeURIComponent (lossy : List UInt8 → String) (key : String) :
    FormUrlEncoded.read lossy (encodeURIComponent key).toList = key := by
  have hbytes (bytes : List UInt8) :
      FormUrlEncoded.readBytes (bytes.flatMap encodeByte) = bytes := by
    induction bytes with
    | nil => rfl
    | cons b bytes ih => rw [List.flatMap_cons, readBytes_encodeByte, ih]
  rw [FormUrlEncoded.read, encodeURIComponent, String.toList_ofList, hbytes,
    FormUrlEncoded.decode_utf8]

/-- No character of `encodeURIComponent` joins names and values. -/
theorem encodeByte_separates (b : UInt8) : ∀ c ∈ encodeByte b, c ≠ '&' ∧ c ≠ '=' ∧ c ≠ '?' := by
  unfold encodeByte
  split_ifs with hplain
  · have hbyte := uri_byte b.toNat b.toNat_lt
    rw [UInt8.ofNat_toNat] at hbyte
    intro c hc
    obtain rfl := List.mem_singleton.1 hc
    exact (hbyte hplain).2
  · have hlt := b.toNat_lt
    have hhigh := FormUrlEncoded.hexDigit_separates (b.toNat / 16) (by omega)
    have hlow := FormUrlEncoded.hexDigit_separates (b.toNat % 16) (by omega)
    simp only [List.forall_mem_cons]
    exact ⟨by decide, hhigh, hlow, nofun⟩

/-- What comes after the first `?` of a URL. -/
def query (url : String) : String :=
  String.ofList ((url.toList.dropWhile (· ≠ '?')).drop 1)

/-- The value of a parameter of a URL; `lossy` is for bytes that are not UTF-8. -/
def param (lossy : List UInt8 → String) (url name : String) : String :=
  ((FormUrlEncoded.parse lossy (query url)).lookup name).getD ""

theorem query_append {base path : String} (hbase : '?' ∉ base.toList) (hpath : '?' ∉ path.toList)
    (rest : String) : query (base ++ path ++ "?" ++ rest) = rest := by
  have hfront : ∀ c ∈ base.toList ++ path.toList, decide (c ≠ '?') = true := by
    intro c hc
    rw [decide_eq_true_eq]
    rintro rfl
    exact (List.mem_append.1 hc).elim hbase hpath
  have hlist : (base ++ path ++ "?" ++ rest).toList =
      (base.toList ++ path.toList) ++ '?' :: rest.toList := by simp
  rw [query, hlist, List.dropWhile_append_of_pos hfront]
  simp

/-- **The public URL leads back to the key.** -/
theorem param_publicUrl (lossy : List UInt8 → String) (hurl : '?' ∉ o.publicApiUrl.toList)
    (key : String) : param lossy (publicUrl o key) "key" = key := by
  have hsplit : publicUrl o key =
      o.publicApiUrl ++ "/uploads/file" ++ "?" ++ ("key=" ++ encodeURIComponent key) := by
    apply String.toList_injective
    simp [publicUrl]
  have hencoded : ∀ c ∈ (encodeURIComponent key).toList, c ≠ '&' ∧ c ≠ '=' ∧ c ≠ '?' := by
    intro c hc
    rw [encodeURIComponent, String.toList_ofList] at hc
    obtain ⟨b, -, hb⟩ := List.mem_flatMap.1 hc
    exact encodeByte_separates b c hb
  have hamp : '&' ∉ 'k' :: 'e' :: 'y' :: '=' :: (encodeURIComponent key).toList := by
    have hkey : '&' ∉ (encodeURIComponent key).toList := fun h => (hencoded '&' h).1 rfl
    simp [hkey]
  have hparse : FormUrlEncoded.parse lossy ("key=" ++ encodeURIComponent key) =
      [("key", key)] := by
    have hlist : ("key=" ++ encodeURIComponent key).toList =
        'k' :: 'e' :: 'y' :: '=' :: (encodeURIComponent key).toList := by simp
    rw [FormUrlEncoded.parse, hlist, List.head?_cons, if_neg (by decide),
      List.splitOn_eq_singleton hamp]
    have hname : FormUrlEncoded.read lossy ['k', 'e', 'y'] = "key" :=
      FormUrlEncoded.read_write lossy "key"
    simp [FormUrlEncoded.readPair, hname, read_encodeURIComponent]
  rw [param, hsplit, query_append hurl (by decide), hparse]
  rfl

/-- **The upload URL carries what was presigned.** -/
theorem param_uploadUrl (lossy : List UInt8 → String) (hurl : '?' ∉ o.publicApiUrl.toList)
    (now : Millis) (request : PresignRequest) :
    let url := (presignUpload rt o now request).uploadUrl
    let expiresAt : ℤ := unixSeconds now + presignTtlSeconds
    param lossy url "key" = request.key ∧ param lossy url "exp" = rt.string expiresAt ∧
      param lossy url "sig" = sign rt o request.key expiresAt := by
  have hsplit : (presignUpload rt o now request).uploadUrl =
      o.publicApiUrl ++ "/uploads/local" ++ "?" ++ FormUrlEncoded.print
        (uploadParams rt o request.key (unixSeconds now + presignTtlSeconds)) := by
    apply String.toList_injective
    simp [presignUpload]
  dsimp only
  rw [param, param, param, hsplit, query_append hurl (by decide), FormUrlEncoded.parse_print]
  exact ⟨rfl, rfl, rfl⟩

end Uploads
end TopChoice
