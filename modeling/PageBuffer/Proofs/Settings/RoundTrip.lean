import PageBuffer.Proofs.LittleEndian
import PageBuffer.Proofs.Settings.Json
import PageBuffer.Settings.Binary

/-!
Writing settings and reading them again, as JSON text and as bytes.

Text that is written is one of the texts that give every field its size.  Bytes can be told more
simply: those that begin with what is written for the settings, and no others, are read as them.
-/

namespace PageBuffer.Settings

open Text (Numeral.print Numeral.value_print)

/-- What the object that is written gives. -/
def gift (settings : Settings) (field : Field) : Gift :=
  (field, settings.get field)

theorem sizeText_print (size : UInt64) : SizeText (Numeral.print size.toNat) size :=
  ⟨Json.Number.wholeDigits_print size.toNat, Numeral.value_print size.toNat⟩

theorem memberText_member (settings : Settings) (field : Field) :
    MemberText (settings.member field) [settings.gift field] :=
  MemberText.plain field (sizeText_print (settings.get field))

theorem membersText_intercalate (settings : Settings) (field : Field) (fields : List Field) :
    MembersText ([','].intercalate ((field :: fields).map settings.member))
      ((field :: fields).map settings.gift) := by
  induction fields generalizing field with
  | nil =>
      rw [List.map_singleton, List.map_singleton, List.intercalate_singleton]
      exact .last (memberText_member settings field)
  | cons next fields inductionHypothesis =>
      rw [List.map_cons, List.map_cons, List.intercalate_cons_cons, List.append_assoc]
      exact .more (memberText_member settings field) (inductionHypothesis next)

theorem objectText_toJson (settings : Settings) :
    ObjectText settings.toJson (Field.all.map settings.gift) := by
  have members := membersText_intercalate settings .bucketSize [.poolSize, .replacerK]
  exact @ObjectText.members [] _ [] _ (by decide) members (by decide)

theorem overlays_gifts (settings : Settings) :
    Overlays (Field.all.map settings.gift) settings where
  get_given given member := by
    obtain ⟨field, -, rfl⟩ := List.mem_map.mp member
    rfl
  get_absent field absent := by
    refine absurd (List.mem_map.mpr ⟨settings.gift field, ?_, rfl⟩) absent
    exact List.mem_map_of_mem (Field.mem_all field)

theorem ofJson_toJson (settings : Settings) : ofJson settings.toJson = .ok settings := by
  have distinct : ((Field.all.map settings.gift).map Prod.fst).Nodup := by
    rw [List.map_map, show Prod.fst ∘ settings.gift = id from rfl, List.map_id]
    decide
  rw [ofJson_of_objectText (objectText_toJson settings), if_pos distinct,
    (overlays_overlaid distinct).eq (overlays_gifts settings)]

namespace Binary

open Bytes.LittleEndian (decode_encode encode_decode decode_lt)

variable {bytes rest : List UInt8} {word : UInt64} {settings : Settings}

@[simp]
theorem length_encodeWord (word : UInt64) : (encodeWord word).length = 8 := by
  simp [encodeWord]

theorem decodeWord?_eq_some_iff :
    decodeWord? bytes = some (word, rest) ↔ bytes = encodeWord word ++ rest := by
  constructor
  · intro decoded
    unfold decodeWord? at decoded
    split at decoded
    · rename_i enough
      cases decoded
      have eight : (bytes.take 8).length = 8 := by simp [enough]
      have small := decode_lt (bytes.take 8)
      have again := encode_decode (bytes.take 8)
      rw [eight] at small again
      rw [encodeWord, UInt64.toNat_ofNat_of_lt' small, again, List.take_append_drop]
    · cases decoded
  · rintro rfl
    have whole : (encodeWord word ++ rest).take 8 = encodeWord word :=
      List.take_left' (length_encodeWord word)
    have others : (encodeWord word ++ rest).drop 8 = rest :=
      List.drop_left' (length_encodeWord word)
    have small : word.toNat % 256 ^ 8 = word.toNat := Nat.mod_eq_of_lt word.toNat_lt
    rw [decodeWord?, if_pos (by simp), whole, others, encodeWord, decode_encode, small,
      UInt64.ofNat_toNat]

/-- Settings are read from the bytes that begin with what is written for them. -/
theorem decode?_eq_some_iff : decode? bytes = some settings ↔ encode settings <+: bytes := by
  simp only [decode?, Option.bind_eq_bind, Option.bind_eq_some_iff, decodeWord?_eq_some_iff,
    Option.pure_def, Option.some.injEq, Prod.exists]
  constructor
  · rintro ⟨bucketSize, _, rfl, poolSize, _, rfl, replacerK, rest, rfl, rfl⟩
    exact ⟨rest, by simp [encode]⟩
  · rintro ⟨rest, rfl⟩
    exact ⟨settings.bucketSize, _, by simp [encode], settings.poolSize, _, rfl,
      settings.replacerK, rest, rfl, rfl⟩

theorem exists_encodeWord (enough : 8 ≤ bytes.length) :
    ∃ word rest, bytes = encodeWord word ++ rest :=
  ⟨_, _, decodeWord?_eq_some_iff.mp (if_pos enough)⟩

theorem exists_encode (enough : 24 ≤ bytes.length) : ∃ settings, encode settings <+: bytes := by
  obtain ⟨bucketSize, afterFirst, rfl⟩ := exists_encodeWord (Nat.le_trans (by decide) enough)
  rw [List.length_append, length_encodeWord] at enough
  have second : 8 ≤ afterFirst.length := by omega
  obtain ⟨poolSize, afterSecond, rfl⟩ := exists_encodeWord second
  rw [List.length_append, length_encodeWord] at enough
  have third : 8 ≤ afterSecond.length := by omega
  obtain ⟨replacerK, rest, rfl⟩ := exists_encodeWord third
  exact ⟨⟨bucketSize, poolSize, replacerK⟩, rest, by simp [encode]⟩

end Binary

/-- Settings are read again from their JSON text, and from their bytes whatever follows those.
Twenty-four bytes are always read, as the settings for which these bytes are written, and fewer are
never read. -/
theorem settings_survive_encoding (settings : Settings) (bytes : List UInt8) :
    ofJson settings.toJson = .ok settings ∧
      Binary.decode? (Binary.encode settings ++ bytes) = some settings ∧
      (24 ≤ bytes.length → ∃ decoded,
        Binary.decode? bytes = some decoded ∧ Binary.encode decoded = bytes.take 24) ∧
      (bytes.length < 24 → Binary.decode? bytes = none) := by
  refine ⟨ofJson_toJson settings, ?_, ?_, ?_⟩
  · exact Binary.decode?_eq_some_iff.mpr (List.prefix_append _ bytes)
  · intro enough
    obtain ⟨decoded, begins⟩ := Binary.exists_encode enough
    refine ⟨decoded, Binary.decode?_eq_some_iff.mpr begins, ?_⟩
    rw [← Binary.length_encode decoded]
    exact List.prefix_iff_eq_take.mp begins
  · intro short
    apply Option.eq_none_iff_forall_ne_some.mpr
    intro decoded read
    have fits := (Binary.decode?_eq_some_iff.mp read).length_le
    rw [Binary.length_encode] at fits
    omega

theorem settings_survive_encoding_largest :
    ofJson ("\x7b\"bucket_size\":0,\"pool_size\":18446744073709551615," ++
        "\"replacer_k\":10\x7d").toList = .ok ⟨0, 18446744073709551615, 10⟩ ∧
      (∃ decoded, Binary.decode? (255 :: List.replicate 24 7) = some decoded ∧
        Binary.encode decoded = 255 :: List.replicate 23 7) ∧
      Binary.decode? (List.replicate 23 0) = none := by
  refine ⟨?_, ?_, ?_⟩
  · exact (settings_survive_encoding ⟨0, 18446744073709551615, 10⟩ []).1
  · exact (settings_survive_encoding {} (255 :: List.replicate 24 7)).2.2.1 (by decide)
  · exact (settings_survive_encoding {} (List.replicate 23 0)).2.2.2 (by decide)

end PageBuffer.Settings
