import OfflineReels.Foundation.Base64
import OfflineReels.Foundation.Calendar
import OfflineReels.Foundation.FlatJson
import OfflineReels.Instagram.Database

namespace OfflineReels.Videos

open OfflineReels.Foundation
open OfflineReels.Instagram

/-! Opaque, signed cursors used by the video feed API. -/

structure VideoCursor where
  createdAt : Time
  id : UUID
  deriving DecidableEq, Repr

def hyphenated : List Nat → List Char → List Char
  | [], text => text
  | width :: rest, text =>
      text.take width ++ '-' :: hyphenated rest (text.drop width)

/-- `str` of a UUID -/
def uuidText (id : UUID) : List Char :=
  hyphenated [8, 4, 4, 4] (fixedDigits 16 32 id)

def isBrace (character : Char) : Bool := character = '{' || character = '}'

def stripBraces (text : List Char) : List Char :=
  ((text.dropWhile isBrace).reverse.dropWhile isBrace).reverse

/-- `UUID` of a text with hexadecimal digits -/
def readUuid (text : List Char) : Option UUID :=
  let text := replace 'u' "rn:".toList [] text
  let text := replace 'u' "uid:".toList [] text
  let digits := replace '-' [] [] (stripBraces text)
  if digits.length = 32 then
    (readFixed hexadecimal 16 32 0 digits).map (·.1)
  else none

theorem mem_hyphenated {widths : List Nat} {text : List Char}
    {character : Char} (member : character ∈ hyphenated widths text) :
    character = '-' ∨ character ∈ text := by
  induction widths generalizing text with
  | nil => exact .inr member
  | cons width rest ih =>
      rcases List.mem_append.mp member with here | later
      · exact .inr (List.mem_of_mem_take here)
      · rcases List.mem_cons.mp later with hyphen | after
        · exact .inl hyphen
        · exact (ih after).imp_right List.mem_of_mem_drop

theorem length_hyphenated (widths : List Nat) (text : List Char) :
    (hyphenated widths text).length = text.length + widths.length := by
  induction widths generalizing text with
  | nil => rfl
  | cons width rest ih =>
      simp only [hyphenated, List.length_append, List.length_cons,
        List.length_take, ih, List.length_drop]
      omega

theorem replace_hyphen (rest : List Char) :
    replace '-' [] [] ('-' :: rest) = replace '-' [] [] rest := rfl

theorem replace_hyphenated {text : List Char} (absent : '-' ∉ text)
    (widths : List Nat) :
    replace '-' [] [] (hyphenated widths text) = text := by
  induction widths generalizing text with
  | nil => exact replace_absent absent
  | cons width rest ih =>
      rw [hyphenated,
        replace_append fun member => absent (List.mem_of_mem_take member),
        replace_hyphen, ih fun member => absent (List.mem_of_mem_drop member),
        List.take_append_drop]

def isUuidCharacter (character : Char) : Bool :=
  character.isDigit || character = '-' ||
    ('a' ≤ character && character ≤ 'f')

theorem digitChar_uuid : ∀ digit < 16,
    isUuidCharacter (Nat.digitChar digit) = true ∧
      Nat.digitChar digit ≠ '-' := by
  decide

theorem mem_uuidText {id : UUID} {character : Char}
    (member : character ∈ uuidText id) : isUuidCharacter character = true := by
  rcases mem_hyphenated member with rfl | digit
  · rfl
  · obtain ⟨value, small, rfl⟩ := mem_fixedDigits (by decide) digit
    exact (digitChar_uuid value small).1

theorem stripBraces_none {text : List Char}
    (none : ∀ character ∈ text, isBrace character = false) :
    stripBraces text = text :=
  dropped_none none

theorem readUuid_uuidText {id : UUID} (fits : id < 2 ^ 128) :
    readUuid (uuidText id) = some id := by
  have unnamed : 'u' ∉ uuidText id := by
    intro member
    exact absurd (mem_uuidText member) (by decide)
  have bare : ∀ character ∈ uuidText id, isBrace character = false := by
    intro character member
    by_contra brace
    simp only [isBrace, Bool.not_eq_false, Bool.or_eq_true,
      decide_eq_true_eq] at brace
    rcases brace with rfl | rfl
    all_goals exact absurd (mem_uuidText member) (by decide)
  have unbroken : '-' ∉ fixedDigits 16 32 id := by
    intro member
    obtain ⟨value, small, same⟩ := mem_fixedDigits (by decide) member
    exact (digitChar_uuid value small).2 same.symm
  have read := readFixed_fixedDigits (by decide) hexadecimal_digitChar 32 0 id
    []
  rw [List.append_nil] at read
  have whole : id % 16 ^ 32 = id := Nat.mod_eq_of_lt (by simpa using fits)
  simp only [readUuid, replace_absent unnamed, stripBraces_none bare]
  simp only [uuidText, replace_hyphenated unbroken, length_fixedDigits,
    if_true, read, Option.map_some, whole, Nat.zero_mul, Nat.zero_add]

def MAX_CURSOR_LENGTH : Nat := 512

def utf8 (text : List Char) : Bytes := text.flatMap String.utf8EncodeChar

def readUtf8 (bytes : Bytes) : Option (List Char) :=
  bytes.toByteArray.utf8Decode?.map (·.toList)

def cursorTimestamp (createdAt : Time) : List Char :=
  replace '+' "00:00".toList ['Z'] (isoFormat createdAt)

def VERSION_FIELD : List Char := "version".toList
def CREATED_AT_FIELD : List Char := "created_at".toList
def ID_FIELD : List Char := "id".toList

/-- The members are sorted by name. -/
def cursorPayload (cursor : VideoCursor) : JsonObject :=
  [(CREATED_AT_FIELD, .text (cursorTimestamp cursor.createdAt)),
    (ID_FIELD, .text (uuidText cursor.id)), (VERSION_FIELD, .number 1)]

def scalarString : JsonScalar → List Char
  | .text value => value
  | .number value => Nat.toDigits 10 value

def payloadFields : List (List Char) :=
  [VERSION_FIELD, CREATED_AT_FIELD, ID_FIELD]

def hasFields (payload : JsonObject) : Bool :=
  (payload.all fun member => member.1 ∈ payloadFields) &&
    payloadFields.all fun field => (lookup payload field).isSome

def readPayload (payload : JsonObject) : Option VideoCursor := do
  if hasFields payload then
    if lookup payload VERSION_FIELD ≠ some (.number 1) then none
    else
      let createdAt ← lookup payload CREATED_AT_FIELD
      let createdAt ← fromIsoFormat
        (replace 'Z' [] utcOffset (scalarString createdAt))
      let id ← lookup payload ID_FIELD
      let id ← readUuid (scalarString id)
      some ⟨createdAt, id⟩
  else none

def decodeBase64Url (text : List Char) : Option Bytes :=
  if text = [] then none else decodeBase64 text

section

-- the keyed digest that signs a cursor
variable (hmac : Bytes → Bytes → Vector UInt8 32)

def signature (secret encodedPayload : List Char) : Bytes :=
  (hmac (utf8 secret) (utf8 encodedPayload)).toList

def encodeVideoCursor (cursor : VideoCursor) (secret : List Char) :
    List Char :=
  let encodedPayload := encodeBase64 (utf8 (dumps (cursorPayload cursor)))
  List.intercalate ['.'] ["v1".toList, encodedPayload,
    encodeBase64 (signature hmac secret encodedPayload)]

/-- An error is raised where there is no answer. -/
def decodeVideoCursor (value secret : List Char) : Option VideoCursor :=
  if MAX_CURSOR_LENGTH < value.length then none
  else
    match value.splitOn '.' with
    | [start, encodedPayload, encodedSignature] =>
        if start ≠ "v1".toList then none
        else do
          let payload ← decodeBase64Url encodedPayload
          let given ← decodeBase64Url encodedSignature
          if given ≠ signature hmac secret encodedPayload then none
          else
            let text ← readUtf8 payload
            let members ← loads text
            readPayload members
    | _ => none

end

theorem readUtf8_utf8 (text : List Char) : readUtf8 (utf8 text) = some text := by
  have decoded := List.utf8Decode?_utf8Encode (l := text)
  unfold List.utf8Encode at decoded
  rw [readUtf8, utf8, decoded]
  rfl

theorem length_utf8 {text : List Char}
    (ascii : ∀ character ∈ text, character.toNat ≤ 127) :
    (utf8 text).length = text.length := by
  induction text with
  | nil => rfl
  | cons first rest ih =>
      have single : first.utf8Size = 1 :=
        Char.utf8Size_eq_one_iff.mpr (ascii first List.mem_cons_self)
      have later := ih fun character member =>
        ascii character (List.mem_cons_of_mem _ member)
      unfold utf8 at later ⊢
      rw [List.flatMap_cons, List.length_append, String.length_utf8EncodeChar,
        single, later, List.length_cons, Nat.add_comm]

theorem cursorTimestamp_eq (createdAt : Time) :
    cursorTimestamp createdAt = localFormat createdAt ++ ['Z'] := by
  refine replace_last fun member => ?_
  exact absurd (mem_localFormat member) (by decide)

theorem replace_cursorTimestamp (createdAt : Time) :
    replace 'Z' [] utcOffset (cursorTimestamp createdAt) =
      isoFormat createdAt := by
  rw [cursorTimestamp_eq]
  refine replace_last fun member => ?_
  exact absurd (mem_localFormat member) (by decide)

/-- The texts of a cursor need no escape. -/
def IsCursorCharacter (character : Char) : Prop :=
  isPlain character = true ∧ character.toNat ≤ 127

theorem isDigit_cursor {character : Char} (digit : character.isDigit = true) :
    IsCursorCharacter character := by
  obtain ⟨low, high⟩ := isDigit_iff.mp digit
  refine ⟨?_, by omega⟩
  by_contra special
  simp only [isPlain, ne_eq, decide_not, Bool.and_eq_true, Bool.not_eq_true',
    decide_eq_false_iff_not, decide_eq_true_eq] at special
  have blank : 32 ≤ character.toNat := by omega
  have marks : character = '"' ∨ character = '\\' := by
    by_contra neither
    exact special ⟨⟨fun quote => neither (.inl quote),
      fun slash => neither (.inr slash)⟩, blank⟩
  rcases marks with rfl | rfl
  all_goals exact absurd digit (by decide)

theorem timestamp_cursor {createdAt : Time} {character : Char}
    (member : character ∈ cursorTimestamp createdAt) :
    IsCursorCharacter character := by
  rw [cursorTimestamp_eq, List.mem_append, List.mem_singleton] at member
  rcases member with within | rfl
  · have kind := mem_localFormat within
    simp only [isLocalCharacter, Bool.or_eq_true, decide_eq_true_eq] at kind
    rcases kind with (((digit | rfl) | rfl) | rfl) | rfl
    · exact isDigit_cursor digit
    all_goals exact ⟨rfl, by decide⟩
  · exact ⟨rfl, by decide⟩

theorem uuid_cursor {id : UUID} {character : Char}
    (member : character ∈ uuidText id) : IsCursorCharacter character := by
  rcases mem_hyphenated member with rfl | digit
  · exact ⟨rfl, by decide⟩
  · obtain ⟨value, small, rfl⟩ := mem_fixedDigits (by decide) digit
    have all : ∀ value < 16, isPlain (Nat.digitChar value) = true ∧
        (Nat.digitChar value).toNat ≤ 127 := by
      decide
    exact all value small

theorem cursorPayload_plain (cursor : VideoCursor) :
    (cursorPayload cursor).all isPlainMember = true := by
  have timestamp : (cursorTimestamp cursor.createdAt).all isPlain = true :=
    List.all_eq_true.mpr fun _ member => (timestamp_cursor member).1
  have identifier : (uuidText cursor.id).all isPlain = true :=
    List.all_eq_true.mpr fun _ member => (uuid_cursor member).1
  have names : VERSION_FIELD.all isPlain = true ∧
      CREATED_AT_FIELD.all isPlain = true ∧ ID_FIELD.all isPlain = true := by
    decide
  simp [cursorPayload, isPlainMember, JsonScalar.isPlain, timestamp, identifier,
    names]

theorem dumps_cursorPayload (cursor : VideoCursor) :
    dumps (cursorPayload cursor) =
      "\x7b\"created_at\":\"".toList ++ (cursorTimestamp cursor.createdAt ++
        ("\",\"id\":\"".toList ++ (uuidText cursor.id ++
          "\",\"version\":1\x7d".toList))) := by
  simp only [dumps, cursorPayload, membersText, memberText, quoted, scalarText,
    List.cons_append, List.append_assoc, List.nil_append]
  rfl

theorem ascii_of_all {text : List Char} {character : Char}
    (all : (text.all fun other => decide (other.toNat ≤ 127)) = true)
    (member : character ∈ text) : character.toNat ≤ 127 :=
  of_decide_eq_true (List.all_eq_true.mp all character member)

theorem length_utf8_cursorPayload (cursor : VideoCursor) :
    (utf8 (dumps (cursorPayload cursor))).length ≤ 100 := by
  have timestamp : (cursorTimestamp cursor.createdAt).length ≤ 27 := by
    have local_ := length_localFormat cursor.createdAt
    rw [cursorTimestamp_eq, List.length_append, List.length_singleton]
    omega
  have identifier : (uuidText cursor.id).length = 36 := by
    rw [uuidText, length_hyphenated, length_fixedDigits]
    rfl
  rw [length_utf8, dumps_cursorPayload]
  · simp only [List.length_append, identifier]
    have first : "\x7b\"created_at\":\"".toList.length = 15 := by decide
    have second : "\",\"id\":\"".toList.length = 8 := by decide
    have third : "\",\"version\":1\x7d".toList.length = 14 := by decide
    omega
  · intro character member
    simp only [dumps_cursorPayload, List.mem_append] at member
    rcases member with fixed | stamp | fixed | digit | fixed
    · exact ascii_of_all (by decide) fixed
    · exact (timestamp_cursor stamp).2
    · exact ascii_of_all (by decide) fixed
    · exact (uuid_cursor digit).2
    · exact ascii_of_all (by decide) fixed

theorem utf8_cursorPayload (cursor : VideoCursor) :
    utf8 (dumps (cursorPayload cursor)) ≠ [] := by
  intro empty
  have text := readUtf8_utf8 (dumps (cursorPayload cursor))
  rw [empty] at text
  cases text

theorem readPayload_cursorPayload {cursor : VideoCursor}
    (dated : cursor.createdAt < endOfTime) (fits : cursor.id < 2 ^ 128) :
    readPayload (cursorPayload cursor) = some cursor := by
  have moment := fromIsoFormat_isoFormat dated
  have version : lookup (cursorPayload cursor) VERSION_FIELD =
      some (.number 1) := rfl
  have created : lookup (cursorPayload cursor) CREATED_AT_FIELD =
      some (.text (cursorTimestamp cursor.createdAt)) := rfl
  have identifier : lookup (cursorPayload cursor) ID_FIELD =
      some (.text (uuidText cursor.id)) := rfl
  have named : hasFields (cursorPayload cursor) = true := rfl
  simp [readPayload, version, created, identifier, named, scalarString,
    replace_cursorTimestamp, moment, readUuid_uuidText fits]

theorem decodeBase64Url_encodeBase64 {bytes : Bytes} (some_ : bytes ≠ []) :
    decodeBase64Url (encodeBase64 bytes) = some bytes := by
  have length := length_encodeBase64 bytes
  have positive := List.length_pos_iff.mpr some_
  have nonempty : encodeBase64 bytes ≠ [] := by
    refine List.length_pos_iff.mp ?_
    omega
  rw [decodeBase64Url, if_neg nonempty, decodeBase64_encodeBase64]

theorem dot_not_mem_encodeBase64 (bytes : Bytes) : '.' ∉ encodeBase64 bytes := by
  intro member
  exact absurd (mem_encodeBase64 member) (by decide)

theorem length_signature (hmac : Bytes → Bytes → Vector UInt8 32)
    (secret encodedPayload : List Char) :
    (signature hmac secret encodedPayload).length = 32 :=
  Vector.length_toList

def encodedPayload (cursor : VideoCursor) : List Char :=
  encodeBase64 (utf8 (dumps (cursorPayload cursor)))

theorem length_encodedPayload (cursor : VideoCursor) :
    (encodedPayload cursor).length ≤ 134 := by
  have bounded := length_utf8_cursorPayload cursor
  rw [encodedPayload, length_encodeBase64]
  omega

def joined (payload signature : List Char) : List Char :=
  List.intercalate ['.'] ["v1".toList, payload, signature]

theorem length_joined (payload signature : List Char) :
    (joined payload signature).length =
      payload.length + signature.length + 4 := by
  have start : "v1".toList.length = 2 := rfl
  simp only [joined, List.intercalate_cons_cons, List.intercalate_singleton,
    List.length_append, List.length_singleton]
  omega

theorem splitOn_joined {payload signature : List Char}
    (first : '.' ∉ payload) (second : '.' ∉ signature) :
    (joined payload signature).splitOn '.' =
      ["v1".toList, payload, signature] := by
  apply List.splitOn_intercalate '.' _ (List.cons_ne_nil _ _)
  intro part member
  simp only [List.mem_cons, List.not_mem_nil, or_false] at member
  rcases member with rfl | rfl | rfl
  · decide
  · exact first
  · exact second

/-- Any text of the signature will do. -/
theorem decodeVideoCursor_signed (hmac : Bytes → Bytes → Vector UInt8 32)
    (secret : List Char) {cursor : VideoCursor}
    (dated : cursor.createdAt < endOfTime) (fits : cursor.id < 2 ^ 128)
    {encodedSignature : List Char}
    (given : decodeBase64 encodedSignature =
      some (signature hmac secret (encodedPayload cursor))) :
    decodeVideoCursor hmac (joined (encodedPayload cursor) encodedSignature)
      secret = some cursor := by
  have loaded : loads (dumps (cursorPayload cursor)) =
      some (cursorPayload cursor) :=
    loads_dumps (List.cons_ne_nil _ _) (cursorPayload_plain cursor)
  have signedLength := length_decodeBase64 given
  rw [length_signature] at signedLength
  have nonempty : encodedSignature ≠ [] := by
    intro empty
    rw [empty] at signedLength
    cases signedLength
  have dotless : '.' ∉ encodedSignature := by
    intro member
    exact absurd (sextetValue_of_decodeBase64 given member) (by decide)
  have parts := splitOn_joined
    (dot_not_mem_encodeBase64 (utf8 (dumps (cursorPayload cursor)))) dotless
  have bounded := length_encodedPayload cursor
  have short : ¬ MAX_CURSOR_LENGTH <
      (joined (encodedPayload cursor) encodedSignature).length := by
    rw [length_joined]
    unfold MAX_CURSOR_LENGTH
    omega
  have payload : decodeBase64Url (encodedPayload cursor) =
      some (utf8 (dumps (cursorPayload cursor))) :=
    decodeBase64Url_encodeBase64 (utf8_cursorPayload cursor)
  have read : decodeBase64Url encodedSignature =
      some (signature hmac secret (encodedPayload cursor)) := by
    rw [decodeBase64Url, if_neg nonempty, given]
  change (joined (encodedPayload cursor) encodedSignature).splitOn '.' =
    ["v1".toList, encodedPayload cursor, encodedSignature] at parts
  simp only [decodeVideoCursor, if_neg short, parts, ne_eq, not_true, if_false,
    payload, read, Option.bind_eq_bind, Option.bind_some, readUtf8_utf8, loaded,
    readPayload_cursorPayload dated fits]

theorem encodeVideoCursor_joined (hmac : Bytes → Bytes → Vector UInt8 32)
    (cursor : VideoCursor) (secret : List Char) :
    encodeVideoCursor hmac cursor secret =
      joined (encodedPayload cursor)
        (encodeBase64 (signature hmac secret (encodedPayload cursor))) := rfl

theorem decodeVideoCursor_encodeVideoCursor
    (hmac : Bytes → Bytes → Vector UInt8 32) (secret : List Char)
    {cursor : VideoCursor} (dated : cursor.createdAt < endOfTime)
    (fits : cursor.id < 2 ^ 128) :
    decodeVideoCursor hmac (encodeVideoCursor hmac cursor secret) secret =
      some cursor :=
  decodeVideoCursor_signed hmac secret dated fits (decodeBase64_encodeBase64 _)

end OfflineReels.Videos
