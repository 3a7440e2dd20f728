/-
# Presigned uploads

`uploads.service.ts`, `uploads.controller.ts`, `dto/upload.dto.ts` and the lists of
`storage/storage.driver.ts`, with the local driver.

A request to presign is a `PresignUploadDto`, which carries what the validation pipe checked.
The key that the service makes up of it (`Presigned`) is a folder and a name, both of them
ordinary (`exists_names_of_presigned`), so it leads to a file two levels below the upload
directory, and it passes the check that a key for deletion has to pass.
-/

import Mathlib.Data.List.Infix
import TopChoice.Lib.Fallible
import TopChoice.Uploads.LocalDriver

namespace TopChoice
namespace Uploads

open Auth PosixPath

/-- `ALLOWED_CONTENT_TYPES`. -/
def allowedContentTypes : List (String × String) :=
  [("image/jpeg", "jpg"), ("image/png", "png"), ("image/webp", "webp"), ("image/avif", "avif"),
    ("image/gif", "gif"), ("application/pdf", "pdf")]

/-- `ALLOWED_FOLDERS`. -/
def allowedFolders : List String :=
  ["properties", "compounds", "developers", "areas", "avatars", "floor-plans", "documents"]

/-- The names that every object inherits: `in` finds them in `ALLOWED_CONTENT_TYPES` too. -/
def objectPrototypeNames : List String :=
  ["constructor", "__defineGetter__", "__defineSetter__", "hasOwnProperty", "__lookupGetter__",
    "__lookupSetter__", "isPrototypeOf", "propertyIsEnumerable", "toString", "valueOf",
    "__proto__", "toLocaleString"]

/-- `PresignUploadDto`, after the validation pipe. -/
structure PresignUploadDto where
  filename : String
  contentType : String
  folder : String
  filename_ne : filename ≠ ""
  filename_length : filename.toList.length ≤ 255
  contentType_mem : contentType ∈ allowedContentTypes.map Prod.fst
  folder_mem : folder ∈ allowedFolders

/-- What `uuidv4` gives. -/
abbrev Uuid : Type := { s : String // isUuid s = true }

/-! ### Keys -/

/-- `.replace('.', '')`: the first dot. -/
def removeDot (text : List Char) : List Char :=
  text.takeWhile (· ≠ '.') ++ (text.dropWhile (· ≠ '.')).drop 1

/-- `extensionFor`. -/
def extensionFor (u : Unicode) (contentType filename : String) : Except UploadException String :=
  match allowedContentTypes.lookup contentType with
  | none =>
      .error ⟨400, .unsupportedMediaType, "Unsupported content type \"" ++ contentType ++ "\"",
        [⟨some "contentType", "not allowed", some "allowlist"⟩]⟩
  | some canonical =>
      let original := u.toLowerCase (String.ofList (removeDot (extname filename.toList)))
      let isEquivalent := original = canonical || (canonical = "jpg" && original = "jpeg")
      .ok (if isEquivalent && original.toList.all isSlugChar &&
          (1 ≤ original.toList.length && original.toList.length ≤ 5) then original else canonical)

/-- `${dto.folder}/${uuidv4()}.${extension}`. -/
def objectKey (folder : String) (uuid : Uuid) (extension : String) : String :=
  folder ++ "/" ++ uuid.1 ++ "." ++ extension

/-- `[a-z0-9-]`. -/
def isFolderChar (c : Char) : Bool := isSlugChar c || c = '-'

/-- `[A-Za-z0-9._-]`. -/
def isNameChar (c : Char) : Bool :=
  isSlugChar c || ('A' ≤ c && c ≤ 'Z') || c = '.' || c = '_' || c = '-'

/-- `/^[a-z0-9-]+\/[A-Za-z0-9._-]+$/.test(key) && !key.includes('..')`. -/
def isSafeKey (key : String) : Bool :=
  let folder := key.toList.takeWhile isFolderChar
  match key.toList.dropWhile isFolderChar with
  | '/' :: name =>
      folder ≠ [] && name ≠ [] && name.all isNameChar && !decide (dotDot <:+: key.toList)
  | _ => false

/-- `assertSafeKey`. -/
def assertSafeKey (key : String) : Except UploadException Unit :=
  if isSafeKey key then .ok ()
  else .error ⟨400, .invalidIdentifier, "Invalid object key",
    [⟨some "key", "malformed object key", some "pattern"⟩]⟩

/-! ### Endpoints -/

variable (rt : Runtime) (o : LocalDriverOptions) (u : Unicode)

/-- `RolesGuard` on `@Roles(...)`: nobody signed in, a superadmin, or one of the roles. -/
def rolesGuard (required : List UserRole) (label : String) :
    Option UserRole → Except UploadException Unit
  | none => .error ⟨401, .unauthorized, "Authentication required", []⟩
  | some role =>
      if role = .superadmin ∨ role ∈ required then .ok ()
      else .error ⟨403, .insufficientRole, "This action requires one of: " ++ label, []⟩

/-- `PresignResult`: `driver` is `local`. -/
structure PresignResult where
  presigned : PresignedUpload
  driver : String
  maxSizeBytes : ℕ
  deriving DecidableEq, Repr

/-- `POST /uploads/presign`. -/
def presign (now : Millis) (role : Option UserRole) (dto : PresignUploadDto) (uuid : Uuid) :
    Except UploadException PresignResult := do
  rolesGuard [.agent, .admin] "agent, admin" role
  let extension ← extensionFor u dto.contentType dto.filename
  let key := objectKey dto.folder uuid extension
  return ⟨presignUpload rt o now ⟨key, dto.contentType, maxUploadBytes⟩, "local", maxUploadBytes⟩

/-- `DELETE /uploads` up to the removal: the path to remove. -/
def removal (role : Option UserRole) (key : String) : Except UploadException (List Char) := do
  rolesGuard [.admin] "admin" role
  assertSafeKey key
  resolveKey rt o key

/-- The text before the first `;`, trimmed. -/
def mediaType (contentType : String) : String :=
  trim (String.ofList (contentType.toList.takeWhile (· ≠ ';')))

/-- `PUT /uploads/local`. -/
structure UploadRequest where
  key : String
  exp : String
  sig : String
  contentType : Option String
  contentLength : Option String
  deriving DecidableEq, Repr

/-- All three of them are there. -/
def checkPresent (request : UploadRequest) : Except UploadException Unit :=
  if request.key = "" ∨ request.exp = "" ∨ request.sig = "" then
    .error ⟨400, .badRequest, "key, exp and sig are all required", []⟩
  else .ok ()

/-- The declared content type is in the table. -/
def checkContentType : Option String → Except UploadException Unit
  | none => .ok ()
  | some contentType =>
      if contentType ≠ "" ∧ mediaType contentType ∉ allowedContentTypes.map Prod.fst ∧
          mediaType contentType ∉ objectPrototypeNames then
        .error ⟨400, .unsupportedMediaType, "Unsupported content type \"" ++ contentType ++ "\"", []⟩
      else .ok ()

/-- The declared length is within the limit. -/
def checkContentLength (contentLength : Option String) : Except UploadException Unit :=
  match rt.parseInt (contentLength.getD "0") with
  | none => .ok ()
  | some declared =>
      if (maxUploadBytes : ℤ) < declared then
        .error ⟨400, .payloadTooLarge,
          "Uploads are limited to " ++ rt.string (maxUploadBytes / 1024 / 1024) ++ " MB", []⟩
      else .ok ()

/-- `uploadLocal` up to the stream: the path to write to. -/
def uploadLocal (now : Millis) (request : UploadRequest) : Except UploadException (List Char) := do
  checkPresent request
  verifyUploadSignature rt o now request.key (rt.parseInt request.exp) request.sig
  checkContentType request.contentType
  checkContentLength rt request.contentLength
  resolveKey rt o request.key

/-- The content type that `serveLocal` gives a key. -/
def servedContentType (key : String) : String :=
  let extension := u.toLowerCase (String.ofList ((key.toList.splitOn '.').getLast?.getD []))
  ((allowedContentTypes.find? fun entry => entry.2 = extension).map Prod.fst).getD
    "application/octet-stream"

/-! ### Presigned keys -/

/-- The extensions of presigned keys. -/
def extensions : List String := "jpeg" :: allowedContentTypes.map Prod.snd

/-- A key that `presign` makes up: an allowed folder, a new name and an extension. -/
structure Presigned where
  folder : String
  uuid : Uuid
  extension : String
  folder_mem : folder ∈ allowedFolders
  extension_mem : extension ∈ extensions

namespace Presigned

/-- The text of the key. -/
def key (p : Presigned) : String := objectKey p.folder p.uuid p.extension

/-- The name of the file. -/
def name (p : Presigned) : List Char := p.uuid.1.toList ++ '.' :: p.extension.toList

/-- The folder and the file. -/
def names (p : Presigned) : List (List Char) := [p.folder.toList, p.name]

end Presigned

theorem folder_chars : ∀ folder ∈ allowedFolders,
    folder.toList ≠ [] ∧ folder.toList.all isFolderChar = true := by decide

theorem extension_chars : ∀ extension ∈ extensions,
    extension.toList ≠ [] ∧ extension.toList.all isSlugChar = true := by decide

/-- A UUID is made of hexadecimal digits and dashes. -/
theorem hex_or_dash_of_uuid (uuid : Uuid) {c : Char} (hc : c ∈ uuid.1.toList) :
    isHex c = true ∨ c = '-' := by
  have huuid := uuid.2
  rw [isUuid, Bool.and_eq_true, decide_eq_true_eq] at huuid
  have hpattern : uuidPattern.toList.length = 36 := by decide
  obtain ⟨d, hd, hfits⟩ := exists_fits (p := fun p => fitsPattern p.1 p.2)
    (huuid.1.trans hpattern.symm) huuid.2 hc
  have hplaces : ∀ d ∈ uuidPattern.toList, d ∈ ['x', '-', 'v', 'n'] := by decide
  have hdigit : ∀ d ∈ ['8', '9', 'a', 'b', 'A', 'B'], isHex d = true := by decide
  have hd := hplaces d hd
  simp only [List.mem_cons, List.not_mem_nil, or_false] at hd
  rcases hd with rfl | rfl | rfl | rfl
  · exact .inl hfits
  · exact .inr (by simpa [fitsPattern] using hfits)
  · left
    simp only [fitsPattern, Bool.and_eq_true, decide_eq_true_eq] at hfits
    have hdecimal : c.isDigit = true := by
      simp only [Char.isDigit, Bool.and_eq_true, decide_eq_true_eq]
      have hlow : '0' ≤ c := Char.le_trans (by decide : '0' ≤ '1') hfits.1
      have hhigh : c ≤ '9' := Char.le_trans hfits.2 (by decide : '8' ≤ '9')
      exact ⟨hlow, hhigh⟩
    simp [isHex, hdecimal]
  · exact .inl (hdigit c (by simpa [fitsPattern] using hfits))

theorem length_uuid (uuid : Uuid) : uuid.1.toList.length = 36 := by
  have huuid := uuid.2
  rw [isUuid, Bool.and_eq_true, decide_eq_true_eq] at huuid
  exact huuid.1

/-- A hexadecimal digit or a dash is a character of a name. -/
theorem isNameChar_of_hex {c : Char} (h : isHex c = true ∨ c = '-') : isNameChar c = true := by
  rcases h with h | rfl
  · simp only [isHex, Bool.or_eq_true, Bool.and_eq_true, decide_eq_true_eq] at h
    rcases h with (hdigit | ⟨hlow, hhigh⟩) | ⟨hlow, hhigh⟩
    · simp [isNameChar, isSlugChar, hdigit]
    · have hz : c ≤ 'z' := Char.le_trans hhigh (by decide : 'f' ≤ 'z')
      simp [isNameChar, isSlugChar, hlow, hz]
    · have hz : c ≤ 'Z' := Char.le_trans hhigh (by decide : 'F' ≤ 'Z')
      simp [isNameChar, hlow, hz]
  · decide

theorem isNameChar_of_isSlugChar {c : Char} (h : isSlugChar c = true) : isNameChar c = true := by
  simp [isNameChar, h]

/-- No separator is a character of a folder or of a name. -/
theorem slash_not_isNameChar : isNameChar '/' = false ∧ isFolderChar '/' = false := by decide

namespace Presigned

variable (p : Presigned)

theorem toList_key : p.key.toList = text p.names := by
  simp [key, objectKey, names, name, text, List.intercalate_cons_cons]

theorem key_ne_empty : p.key ≠ "" := by
  intro hempty
  have htext := p.toList_key
  rw [hempty] at htext
  simp [names, text, List.intercalate_cons_cons] at htext

theorem isNameChar_name : ∀ c ∈ p.name, isNameChar c = true := by
  have hextension := (extension_chars p.extension p.extension_mem).2
  rw [List.all_eq_true] at hextension
  intro c hc
  rcases List.mem_append.1 hc with hc | hc
  · exact isNameChar_of_hex (hex_or_dash_of_uuid p.uuid hc)
  · rcases List.mem_cons.1 hc with rfl | hc
    · decide
    · exact isNameChar_of_isSlugChar (hextension c hc)

/-- **Both names of a presigned key are ordinary.** -/
theorem ordinary_names : ∀ n ∈ p.names, Ordinary n := by
  obtain ⟨hne, hchars⟩ := folder_chars p.folder p.folder_mem
  rw [List.all_eq_true] at hchars
  have hlength : 36 < p.name.length := by
    have := length_uuid p.uuid
    simp only [name, List.length_append, List.length_cons]
    omega
  have hfolder : Ordinary p.folder.toList := by
    refine ⟨hne, ?_, ?_, fun hslash => ?_⟩
    · intro hdot
      exact absurd (hchars '.' (by rw [hdot]; decide)) (by decide)
    · intro hdots
      exact absurd (hchars '.' (by rw [hdots]; decide)) (by decide)
    · exact absurd (hchars '/' hslash) (by decide)
  have hname : Ordinary p.name := by
    refine ⟨?_, ?_, ?_, fun hslash => ?_⟩
    · rintro hnil
      simp [hnil] at hlength
    · rintro hdot
      simp [hdot, dot] at hlength
    · rintro hdots
      simp [hdots, dotDot] at hlength
    · exact absurd (p.isNameChar_name '/' hslash) (by decide)
  exact List.forall_mem_cons.2 ⟨hfolder, List.forall_mem_singleton.2 hname⟩

/-- **A presigned key is taken by the driver**: its file is two levels below the directory. -/
theorem resolveKey_key {rt : Runtime} {o : LocalDriverOptions} {ns : List (List Char)}
    (hns : ∀ n ∈ ns, Ordinary n) (hroot : root rt o = location ns) (hne : ns ≠ []) :
    resolveKey rt o p.key = .ok (location (ns ++ p.names)) :=
  resolveKey_text hns hroot hne p.toList_key p.ordinary_names (by simp [names])

/-- **A presigned key is one that may be deleted.** -/
theorem isSafeKey_key : isSafeKey p.key = true := by
  obtain ⟨hne, hchars⟩ := folder_chars p.folder p.folder_mem
  have hsplit : p.key.toList = p.folder.toList ++ '/' :: p.name := by
    simp [key, objectKey, name]
  have hdrop : p.key.toList.dropWhile isFolderChar = '/' :: p.name := by
    rw [hsplit, List.dropWhile_append_of_pos (List.all_eq_true.1 hchars),
      List.dropWhile_cons_of_neg (by decide)]
  have htake : p.key.toList.takeWhile isFolderChar = p.folder.toList := by
    rw [hsplit, List.takeWhile_append_of_pos (List.all_eq_true.1 hchars),
      List.takeWhile_cons_of_neg (by decide), List.append_nil]
  have hname : p.name ≠ [] := by simp [name]
  have hall : p.name.all isNameChar = true := List.all_eq_true.2 p.isNameChar_name
  have hdots : ¬ dotDot <:+: p.key.toList := fun h => by
    -- The only dot is the one before the extension.
    have hfolder : '.' ∉ p.folder.toList := fun h =>
      absurd (List.all_eq_true.1 hchars '.' h) (by decide)
    have huuid : '.' ∉ p.uuid.1.toList := fun h =>
      absurd (hex_or_dash_of_uuid p.uuid h) (by decide)
    have hextension : '.' ∉ p.extension.toList := fun h =>
      absurd (List.all_eq_true.1 (extension_chars p.extension p.extension_mem).2 '.' h) (by decide)
    have hcount := h.sublist.count_le '.'
    have htwo : List.count '.' dotDot = 2 := by decide
    rw [hsplit, htwo, name, List.count_append, List.count_cons_of_ne (by decide), List.count_append,
      List.count_cons_self, List.count_eq_zero_of_not_mem hfolder,
      List.count_eq_zero_of_not_mem huuid, List.count_eq_zero_of_not_mem hextension] at hcount
    omega
  simp [isSafeKey, htake, hdrop, hne, hname, hall, hdots]

/-- What is served for a presigned key is said to be what the extension stands for. -/
theorem servedContentType_key {u : Unicode}
    (hu : ∀ s : String, s.toList.all isSlugChar = true → u.toLowerCase s = s) :
    servedContentType u p.key =
      ((allowedContentTypes.find? fun entry => entry.2 = p.extension).map Prod.fst).getD
        "application/octet-stream" := by
  have hchars := (extension_chars p.extension p.extension_mem).2
  have hdot : '.' ∉ p.extension.toList := fun h =>
    absurd (List.all_eq_true.1 hchars '.' h) (by decide)
  have hsplit : p.key.toList.splitOn '.' =
      (p.folder.toList ++ '/' :: p.uuid.1.toList).splitOn '.' ++ [p.extension.toList] := by
    have hkey : p.key.toList =
        (p.folder.toList ++ '/' :: p.uuid.1.toList) ++ '.' :: p.extension.toList := by
      simp [key, objectKey]
    rw [hkey, List.splitOn_append_cons_self, List.splitOn_eq_singleton hdot]
  rw [servedContentType, hsplit, List.getLast?_concat, Option.getD_some, String.ofList_toList,
    hu _ hchars]

end Presigned

/-- The content types with the extension for each. -/
theorem lookup_contentType : ∀ contentType ∈ allowedContentTypes.map Prod.fst,
    ∃ canonical ∈ extensions, allowedContentTypes.lookup contentType = some canonical ∧
      (canonical = "jpg" → contentType = "image/jpeg") ∧
      allowedContentTypes.find? (fun entry => entry.2 = canonical) =
        some (contentType, canonical) := by
  decide +kernel

/-- **The extension for a content type on the list**: the one that stands for it, or `jpeg`. -/
theorem extensionFor_eq_ok (u : Unicode) {contentType : String}
    (h : contentType ∈ allowedContentTypes.map Prod.fst) (filename : String) :
    ∃ extension ∈ extensions, extensionFor u contentType filename = .ok extension ∧
      (allowedContentTypes.find? (fun entry => entry.2 = extension) =
          some (contentType, extension) ∨
        contentType = "image/jpeg" ∧ extension = "jpeg") := by
  obtain ⟨canonical, hmem, hlookup, hjpg, hfind⟩ := lookup_contentType contentType h
  rw [extensionFor, hlookup]
  dsimp only
  split_ifs with hkept
  · rw [Bool.and_eq_true, Bool.and_eq_true, Bool.or_eq_true, Bool.and_eq_true] at hkept
    obtain ⟨⟨hsame | ⟨hcanonical, hjpeg⟩, -⟩, -⟩ := hkept
    · rw [decide_eq_true_eq] at hsame
      rw [hsame]
      exact ⟨canonical, hmem, rfl, .inl hfind⟩
    · rw [decide_eq_true_eq] at hcanonical hjpeg
      rw [hjpeg]
      exact ⟨"jpeg", List.mem_cons_self .., rfl, .inr ⟨hjpg hcanonical, rfl⟩⟩
  · exact ⟨canonical, hmem, rfl, .inl hfind⟩

/-- The roles that may presign. -/
def MayPresign (role : Option UserRole) : Prop :=
  role = some .agent ∨ role = some .admin ∨ role = some .superadmin

theorem rolesGuard_eq_ok {required : List UserRole} {label : String} {role : Option UserRole} :
    rolesGuard required label role = .ok () ↔ ∃ r, role = some r ∧ (r = .superadmin ∨ r ∈ required) := by
  cases role with
  | none => simp [rolesGuard]
  | some r =>
    rw [rolesGuard]
    split_ifs with h
    · simp [h]
    · simp [h]

/-- **What is presigned**: for the roles that may, a new key in the folder asked for. -/
theorem exists_presigned {rt : Runtime} {o : LocalDriverOptions} {u : Unicode} {now : Millis}
    {role : Option UserRole} {dto : PresignUploadDto} {uuid : Uuid} {r : PresignResult}
    (h : presign rt o u now role dto uuid = .ok r) :
    MayPresign role ∧ ∃ p : Presigned, p.folder = dto.folder ∧ p.uuid = uuid ∧
      r = ⟨presignUpload rt o now ⟨p.key, dto.contentType, maxUploadBytes⟩, "local",
        maxUploadBytes⟩ ∧
      (allowedContentTypes.find? (fun entry => entry.2 = p.extension) =
          some (dto.contentType, p.extension) ∨
        dto.contentType = "image/jpeg" ∧ p.extension = "jpeg") := by
  obtain ⟨extension, hmem, hextension, hstands⟩ :=
    extensionFor_eq_ok u dto.contentType_mem dto.filename
  rw [presign, Fallible.bind_eq_ok] at h
  obtain ⟨⟨⟩, hguard, h⟩ := h
  rw [hextension] at h
  refine ⟨?_, ⟨dto.folder, uuid, extension, dto.folder_mem, hmem⟩, rfl, rfl, ?_, hstands⟩
  · obtain ⟨r, rfl, hr⟩ := rolesGuard_eq_ok.1 hguard
    simp only [List.mem_cons, List.not_mem_nil, or_false] at hr
    rcases hr with rfl | rfl | rfl <;> simp [MayPresign]
  · exact (Except.ok.inj h).symm

/-- What an admin removes had a safe key. -/
theorem removal_eq_ok {rt : Runtime} {o : LocalDriverOptions} {role : Option UserRole}
    {key : String} {path : List Char} (h : removal rt o role key = .ok path) :
    isSafeKey key = true ∧ resolveKey rt o key = .ok path := by
  rw [removal, Fallible.bind_eq_ok] at h
  obtain ⟨⟨⟩, -, h⟩ := h
  obtain ⟨⟨⟩, hsafe, hpath⟩ := Fallible.bind_eq_ok.1 h
  rw [assertSafeKey] at hsafe
  split_ifs at hsafe with hkey
  exact ⟨hkey, hpath⟩

/-- **What passes the checks of an upload**: all of them, and its key leads to the path. -/
theorem uploadLocal_eq_ok_iff {rt : Runtime} {o : LocalDriverOptions} {now : Millis}
    {request : UploadRequest} {path : List Char} :
    uploadLocal rt o now request = .ok path ↔
      checkPresent request = .ok () ∧
      verifyUploadSignature rt o now request.key (rt.parseInt request.exp) request.sig = .ok () ∧
      checkContentType request.contentType = .ok () ∧
      checkContentLength rt request.contentLength = .ok () ∧
      resolveKey rt o request.key = .ok path := by
  rw [uploadLocal]
  constructor
  · intro h
    obtain ⟨⟨⟩, hpresent, h⟩ := Fallible.bind_eq_ok.1 h
    obtain ⟨⟨⟩, hverify, h⟩ := Fallible.bind_eq_ok.1 h
    obtain ⟨⟨⟩, htype, h⟩ := Fallible.bind_eq_ok.1 h
    obtain ⟨⟨⟩, hlength, hpath⟩ := Fallible.bind_eq_ok.1 h
    exact ⟨hpresent, hverify, htype, hlength, hpath⟩
  · rintro ⟨hpresent, hverify, htype, hlength, hpath⟩
    rw [hpresent, hverify, htype, hlength]
    exact hpath

end Uploads
end TopChoice
