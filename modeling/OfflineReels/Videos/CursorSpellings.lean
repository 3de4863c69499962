import OfflineReels.Videos.Cursor

namespace OfflineReels.Videos

open OfflineReels.Foundation
open OfflineReels.Instagram

/-! The texts that are read as one cursor. -/

/-- A moment as the clocks of some zone show it, and how far they are ahead of
UTC. -/
structure AwareDatetime where
  clock : Int
  utcOffset : Int

/-- `astimezone(UTC)`, where there is such a moment -/
def AwareDatetime.toUtc (value : AwareDatetime) : Option Time :=
  let moment := value.clock - value.utcOffset
  if 0 ≤ moment ∧ moment < endOfTime then some moment.toNat else none

theorem AwareDatetime.toUtc_dated {value : AwareDatetime} {createdAt : Time}
    (converted : value.toUtc = some createdAt) : createdAt < endOfTime := by
  unfold AwareDatetime.toUtc at converted
  dsimp only at converted
  split at converted
  · rename_i representable
    cases converted
    exact (Int.toNat_lt representable.1).mpr representable.2
  · cases converted

/-- The last character of the signature has two bits to spare. -/
def hasClearEnd (value : List Char) : Bool :=
  (value.getLast?.bind sextetValue).all (· % 4 = 0)

section

variable (hmac : Bytes → Bytes → Vector UInt8 32) (secret : List Char)

/-- Only the encoder signs a payload. -/
def Genuine (value : List Char) : Prop :=
  ∀ payload encodedSignature,
    value.splitOn '.' = ["v1".toList, payload, encodedSignature] →
    decodeBase64Url encodedSignature = some (signature hmac secret payload) →
    ∃ cursor : VideoCursor, cursor.createdAt < endOfTime ∧
      cursor.id < 2 ^ 128 ∧ payload = encodedPayload cursor

variable {hmac secret}

theorem decodeVideoCursor_eq_some {value : List Char} {cursor : VideoCursor}
    (decoded : decodeVideoCursor hmac value secret = some cursor) :
    ∃ payload encodedSignature,
      value.splitOn '.' = ["v1".toList, payload, encodedSignature] ∧
      decodeBase64Url encodedSignature =
        some (signature hmac secret payload) := by
  unfold decodeVideoCursor at decoded
  split at decoded
  · cases decoded
  · split at decoded
    · rename_i start payload encodedSignature parts
      split at decoded
      · cases decoded
      · rename_i started
        rw [ne_eq, not_not] at started
        subst started
        simp only [Option.bind_eq_bind, Option.bind_eq_some_iff] at decoded
        obtain ⟨bytes, _, given, read, rest⟩ := decoded
        split at rest
        · cases rest
        · rename_i same
          rw [ne_eq, not_not] at same
          exact ⟨payload, encodedSignature, parts, same ▸ read⟩
    · cases decoded

theorem decodeBase64Url_eq_some {text : List Char} {bytes : Bytes}
    (decoded : decodeBase64Url text = some bytes) :
    decodeBase64 text = some bytes := by
  unfold decodeBase64Url at decoded
  split at decoded
  · cases decoded
  · exact decoded

theorem joined_eq (payload encodedSignature : List Char) :
    joined payload encodedSignature =
      ("v1".toList ++ '.' :: payload ++ ['.']) ++ encodedSignature := by
  simp [joined, List.intercalate_cons_cons]

theorem decoded_joined {value : List Char} {cursor : VideoCursor}
    (genuine : Genuine hmac secret value)
    (decoded : decodeVideoCursor hmac value secret = some cursor) :
    ∃ encodedSignature,
      value = joined (encodedPayload cursor) encodedSignature ∧
      decodeBase64 encodedSignature =
        some (signature hmac secret (encodedPayload cursor)) := by
  obtain ⟨payload, encodedSignature, parts, read⟩ :=
    decodeVideoCursor_eq_some decoded
  obtain ⟨source, dated, fits, rfl⟩ := genuine _ _ parts read
  have given := decodeBase64Url_eq_some read
  have whole : value = joined (encodedPayload source) encodedSignature := by
    rw [joined, ← parts, List.intercalate_splitOn]
  have again := decodeVideoCursor_signed hmac secret dated fits given
  rw [← whole, decoded] at again
  obtain rfl := Option.some.inj again
  exact ⟨encodedSignature, whole, given⟩

theorem encodeVideoCursor_eq_iff {value : List Char} {cursor : VideoCursor}
    (genuine : Genuine hmac secret value)
    (decoded : decodeVideoCursor hmac value secret = some cursor) :
    value = encodeVideoCursor hmac cursor secret ↔
      hasClearEnd value = true := by
  obtain ⟨encodedSignature, rfl, given⟩ := decoded_joined genuine decoded
  have length := length_decodeBase64 given
  rw [length_signature] at length
  have canonical := isCanonicalBase64_last
    (show encodedSignature.length % 4 = 3 by omega)
  have ending : (joined (encodedPayload cursor) encodedSignature).getLast? =
      encodedSignature.getLast? := by
    rw [joined_eq, List.getLast?_append_of_ne_nil]
    intro empty
    rw [empty] at length
    cases length
  unfold hasClearEnd
  rw [ending, ← canonical, ← encodeBase64_decodeBase64_iff given,
    encodeVideoCursor_joined]
  constructor
  · intro same
    rw [joined_eq, joined_eq] at same
    exact (List.append_cancel_left same).symm
  · intro same
    rw [same]

end

/-- The encoder's texts are short and read back; another text of the cursor
differs in the spare bits at its end. -/
theorem video_cursor_codec (hmac : Bytes → Bytes → Vector UInt8 32)
    (secret : List Char) :
    (∀ (value : AwareDatetime) (createdAt : Time) (id : UUID),
      value.toUtc = some createdAt → id < 2 ^ 128 →
        decodeVideoCursor hmac
            (encodeVideoCursor hmac ⟨createdAt, id⟩ secret) secret =
          some ⟨createdAt, id⟩ ∧
        (encodeVideoCursor hmac ⟨createdAt, id⟩ secret).length ≤
          MAX_CURSOR_LENGTH) ∧
    ∀ (value : List Char) (cursor : VideoCursor),
      Genuine hmac secret value →
      decodeVideoCursor hmac value secret = some cursor →
        (value = encodeVideoCursor hmac cursor secret ↔
          hasClearEnd value = true) := by
  constructor
  · intro value createdAt id converted fits
    constructor
    · exact decodeVideoCursor_encodeVideoCursor hmac secret
        (AwareDatetime.toUtc_dated converted) fits
    · have bounded := length_encodedPayload ⟨createdAt, id⟩
      have signed := length_encodeBase64
        (signature hmac secret (encodedPayload ⟨createdAt, id⟩))
      rw [length_signature] at signed
      rw [encodeVideoCursor_joined, length_joined, signed]
      unfold MAX_CURSOR_LENGTH
      omega
  · intro value cursor genuine decoded
    exact encodeVideoCursor_eq_iff genuine decoded

def sampleMoment : AwareDatetime where
  clock := 63844806615500000 + 7200000000
  utcOffset := 7200000000

def sampleCursor : VideoCursor where
  createdAt := 63844806615500000
  id := 0x0123456789abcdef0123456789abcdef

def sampleDigest : Vector UInt8 32 :=
  #v[104, 99, 102, 55, 194, 196, 68, 229, 137, 79, 163, 46, 216, 89, 13, 5, 88,
    35, 145, 244, 116, 61, 1, 190, 6, 50, 86, 95, 138, 68, 127, 78]

def sampleHmac (key message : Bytes) : Vector UInt8 32 :=
  if key = utf8 "secret".toList ∧
      message = utf8 (encodedPayload sampleCursor) then sampleDigest
  else Vector.replicate 32 0

def sampleText (ending : Char) : List Char :=
  joined (encodedPayload sampleCursor)
    ("aGNmN8LEROWJT6Mu2FkNBVgjkfR0PQG-BjJWX4pEf0".toList ++ [ending])

theorem signature_sample :
    signature sampleHmac "secret".toList (encodedPayload sampleCursor) =
      sampleDigest.toList := by
  unfold signature sampleHmac
  rw [if_pos ⟨rfl, rfl⟩]

theorem sample_dated : sampleCursor.createdAt < endOfTime := by
  decide +kernel

theorem genuine_joined {hmac : Bytes → Bytes → Vector UInt8 32}
    {secret : List Char} {cursor : VideoCursor}
    (dated : cursor.createdAt < endOfTime) (fits : cursor.id < 2 ^ 128)
    {encodedSignature : List Char} (dotless : '.' ∉ encodedSignature) :
    Genuine hmac secret (joined (encodedPayload cursor) encodedSignature) := by
  intro payload other parts _
  have own := splitOn_joined (dot_not_mem_encodeBase64
    (utf8 (dumps (cursorPayload cursor)))) dotless
  change (joined (encodedPayload cursor) encodedSignature).splitOn '.' =
    ["v1".toList, encodedPayload cursor, encodedSignature] at own
  rw [own] at parts
  simp only [List.cons.injEq, true_and, and_true] at parts
  exact ⟨cursor, dated, fits, parts.1.symm⟩

theorem sample_decoded {ending : Char}
    (read : decodeBase64
      ("aGNmN8LEROWJT6Mu2FkNBVgjkfR0PQG-BjJWX4pEf0".toList ++ [ending]) =
        some sampleDigest.toList) :
    decodeVideoCursor sampleHmac (sampleText ending) "secret".toList =
      some sampleCursor :=
  decodeVideoCursor_signed sampleHmac "secret".toList sample_dated (by decide)
    (by rw [signature_sample, read])

theorem sample_codec :
    (decodeVideoCursor sampleHmac
        (encodeVideoCursor sampleHmac sampleCursor "secret".toList)
        "secret".toList = some sampleCursor ∧
      (encodeVideoCursor sampleHmac sampleCursor "secret".toList).length ≤
        MAX_CURSOR_LENGTH) ∧
    (sampleText '4' =
        encodeVideoCursor sampleHmac sampleCursor "secret".toList ↔
      hasClearEnd (sampleText '4') = true) := by
  have codec := video_cursor_codec sampleHmac "secret".toList
  exact ⟨codec.1 sampleMoment sampleCursor.createdAt sampleCursor.id
      (by decide +kernel) (by decide),
    codec.2 (sampleText '4') sampleCursor
      (genuine_joined sample_dated (by decide) (by decide))
      (sample_decoded (by decide +kernel))⟩

/-- The next character has the same bits but for a spare one. -/
theorem respelled_cursor_decoded :
    ¬ ∀ (hmac : Bytes → Bytes → Vector UInt8 32) (secret value : List Char)
      (cursor : VideoCursor), Genuine hmac secret value →
      decodeVideoCursor hmac value secret = some cursor →
        value = encodeVideoCursor hmac cursor secret := by
  intro always
  have same := always sampleHmac "secret".toList (sampleText '5') sampleCursor
    (genuine_joined sample_dated (by decide) (by decide))
    (sample_decoded (by decide +kernel))
  rw [encodeVideoCursor_joined, signature_sample, sampleText, joined_eq,
    joined_eq] at same
  exact absurd (List.append_cancel_left same) (by decide +kernel)

end OfflineReels.Videos
