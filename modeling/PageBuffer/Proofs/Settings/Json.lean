import PageBuffer.Proofs.Json.Value
import PageBuffer.Proofs.Settings.Overlay

/-!
What is read from a JSON text are the sizes that it gives, laid over the defaults.

One member of an object does to the draft what its gifts do, and its members together what all
their gifts do; nothing else about the text is left by then.
-/

namespace PageBuffer.Settings

open Fallible (ok_bind error_bind)
open Json
open Json.Number (Stops stops_cons stops_blanks_append)

variable {text other label digits blanks rest name : List Char} {draft : Draft} {size : UInt64}
  {sizes : List UInt64} {given gifts : List Gift} {field : Field}

theorem readSize_append (blank : Blanks blanks) (written : SizeText digits size)
    (stops : Stops rest) : readSize (blanks ++ digits ++ rest) = .ok (size, rest) := by
  obtain ⟨whole, value⟩ := written
  have fits : Text.Numeral.value digits < UInt64.size := value ▸ size.toNat_lt
  obtain ⟨first, remaining, rfl, starts⟩ := Scalar.exists_cons_of_wholeDigits whole
  have scanned : Number.scan (first :: (remaining ++ rest)) = .ok (⟨false, _, none, none⟩, rest) :=
    Number.scan_whole whole stops
  have word : UInt64.ofNat (Text.Numeral.value (first :: remaining)) = size := by
    rw [value, UInt64.ofNat_toNat]
  rw [List.append_assoc, List.cons_append, readSize,
    skipBlanks_append_cons blank (Scalar.isBlank_of_startsNumber starts)]
  split
  · rename_i opened
    cases opened
    cases starts
  · rename_i opened
    cases opened
    cases starts
  · rw [Scalar.read_of_scan starts scanned (Number.isOutOfRange_of_fits fits)]
    simp [Scalar.word?, Number.word?_of_fits fits, word]

theorem exists_readKey (written : NameText label name) (rest : List Char) :
    ∃ between after, readKey (label ++ rest) = .ok (name, between ++ ':' :: (after ++ rest)) ∧
      Blanks between ∧ Blanks after := by
  cases written with
  | @parts before key between after _ blankBefore spells blankBetween blankAfter =>
      refine ⟨between, after, ?_, blankBetween, blankAfter⟩
      simp only [List.append_assoc, List.cons_append, readKey]
      rw [skipBlanks_append_cons blankBefore rfl]
      exact Quoted.read_spelled spells _

theorem ofKey?_eq_none (unknown : ∀ field : Field, name ≠ field.key.toList) :
    Field.ofKey? (String.ofList name) = none := by
  apply List.find?_eq_none.mpr
  intro field _ same
  apply unknown field
  rw [of_decide_eq_true same, String.toList_ofList]

/-- Reading a member takes its gifts, and leaves the text after it. -/
theorem exists_readMember (written : MemberText text gifts) (draft : Draft) (stops : Stops rest) :
    ∃ after, skipBlanks after = skipBlanks rest ∧
      draft.readMember (text ++ rest) = (draft.giveAll gifts).map fun next => (next, after) := by
  cases written with
  | @known label digits blanks field size named sized blank =>
      refine ⟨blanks ++ rest, skipBlanks_blank_append blank, ?_⟩
      obtain ⟨between, after, keyed, blankBetween, blankAfter⟩ :=
        exists_readKey named (digits ++ (blanks ++ rest))
      have read := readSize_append blankAfter sized (stops_blanks_append blank stops)
      simp only [List.append_assoc] at read ⊢
      rw [Draft.readMember, keyed]
      simp only [ok_bind, Draft.readNamed, String.ofList_toList, Field.ofKey?_key, Draft.giveAll]
      split
      · rfl
      · rw [skipColon_append blankBetween, ok_bind, read]
        rfl
  | @other label name value blanks named unknown written blank =>
      refine ⟨blanks ++ rest, skipBlanks_blank_append blank, ?_⟩
      obtain ⟨between, after, keyed, blankBetween, blankAfter⟩ :=
        exists_readKey named (value ++ (blanks ++ rest))
      have skipped := skipValue_append written blankAfter (stops_blanks_append blank stops)
      simp only [List.append_assoc] at skipped ⊢
      rw [Draft.readMember, keyed]
      simp only [ok_bind, Draft.readNamed, ofKey?_eq_none unknown, skipColon_append blankBetween,
        skipped]
      rfl

/-- A member and what follows it. -/
def Draft.readMembers (draft : Draft) (text : List Char) : Except Fault (Settings × List Char) := do
  let (next, rest) ← draft.readMember text
  next.readNext rest

theorem Draft.readNext_of_closer (closed : skipBlanks text = '\x7d' :: rest) :
    draft.readNext text = .ok (draft.settings, rest) := by
  rw [readNext]
  split <;> simp_all

theorem Draft.readNext_of_comma (comma : skipBlanks text = ',' :: rest) :
    draft.readNext text = draft.readMembers rest := by
  rw [readNext, readMembers]
  split
  · simp_all
  · simp_all
  · rename_i same
    cases comma.symm.trans same
    split <;> simp_all [ok_bind, error_bind]
  · simp_all

/-- Members are read from the first to the last, and the draft takes their gifts in that order. -/
theorem Draft.readMembers_append (written : MembersText text gifts) (draft : Draft)
    (rest : List Char) :
    draft.readMembers (text ++ '\x7d' :: rest) =
      ((draft.giveAll gifts).map Draft.settings).map (·, rest) := by
  induction written generalizing draft with
  | last written =>
      have stops : Stops ('\x7d' :: rest) := stops_cons.mpr rfl
      obtain ⟨after, same, read⟩ := exists_readMember written draft stops
      rw [readMembers, read]
      cases draft.giveAll _ with
      | error fault => rfl
      | ok next =>
          apply readNext_of_closer
          rw [same, skipBlanks_cons_of_not_blank rfl]
  | @more text items gifts others written _ inductionHypothesis =>
      rw [List.append_assoc, List.cons_append]
      have stops : Stops (',' :: (items ++ '\x7d' :: rest)) := stops_cons.mpr rfl
      obtain ⟨after, same, read⟩ := exists_readMember written draft stops
      rw [readMembers, read, giveAll_append]
      cases draft.giveAll gifts with
      | error fault => rfl
      | ok next =>
          have comma : skipBlanks after = ',' :: (items ++ '\x7d' :: rest) := by
            rw [same, skipBlanks_cons_of_not_blank rfl]
          exact (readNext_of_comma comma).trans (inductionHypothesis next)

theorem exists_quote_of_nameText (written : NameText label name) (rest : List Char) :
    ∃ remaining, skipBlanks (label ++ rest) = '"' :: remaining := by
  cases written with
  | parts blank _ _ _ =>
      simp only [List.append_assoc, List.cons_append]
      exact ⟨_, skipBlanks_append_cons blank rfl⟩

theorem exists_quote_of_memberText (written : MemberText text gifts) (rest : List Char) :
    ∃ remaining, skipBlanks (text ++ rest) = '"' :: remaining := by
  cases written with
  | known named _ _ | other named _ _ _ =>
      simp only [List.append_assoc]
      exact exists_quote_of_nameText named _

theorem exists_quote_of_membersText (written : MembersText text gifts) (rest : List Char) :
    ∃ remaining, skipBlanks (text ++ rest) = '"' :: remaining := by
  cases written with
  | last written => exact exists_quote_of_memberText written rest
  | more written _ =>
      rw [List.append_assoc]
      exact exists_quote_of_memberText written _

theorem readObject_of_membersText (written : MembersText text gifts) (rest : List Char) :
    readObject (text ++ '\x7d' :: rest) =
      ((({} : Draft).giveAll gifts).map Draft.settings).map (·, rest) := by
  obtain ⟨remaining, quote⟩ := exists_quote_of_membersText written ('\x7d' :: rest)
  have again : ({} : Draft).readMember ('"' :: remaining) =
      ({} : Draft).readMember (text ++ '\x7d' :: rest) := by
    simp only [Draft.readMember, readKey, ← quote, skipBlanks_skipBlanks]
  rw [← Draft.readMembers_append written, readObject, Draft.readMembers]
  split
  · simp_all
  · simp_all
  · rw [quote, again]
    cases ({} : Draft).readMember (text ++ '\x7d' :: rest) <;> rfl

theorem exists_start_of_sizesText (written : SizesText text sizes) (rest : List Char) :
    ∃ first remaining, skipBlanks (text ++ rest) = first :: remaining ∧
      Scalar.startsNumber first = true := by
  cases written with
  | last blank sized _ | more blank sized _ _ =>
      obtain ⟨first, remaining, rfl, starts⟩ := Scalar.exists_cons_of_wholeDigits sized.1
      simp only [List.append_assoc, List.cons_append]
      exact ⟨first, _, skipBlanks_append_cons blank (Scalar.isBlank_of_startsNumber starts), starts⟩

/-- The first element of a list is read like one after a comma. -/
theorem readList_of_start {first : Char} (start : skipBlanks text = first :: rest)
    (starts : Scalar.startsNumber first = true) :
    readList text = readElements {} Field.all (',' :: text) := by
  have again : readSize (first :: rest) = readSize text := by
    simp only [readSize, ← start, skipBlanks_skipBlanks]
  have comma : skipBlanks (',' :: text) = ',' :: text := skipBlanks_cons_of_not_blank rfl
  unfold readList
  split
  · simp_all
  · rename_i closed
    cases start.symm.trans closed
    cases starts
  · rw [start, again, Field.all]
    conv => rhs; unfold readElements
    rw [comma]
    rfl

theorem readElements_of_closer {settings : Settings} {fields : List Field}
    (closed : skipBlanks text = ']' :: rest) :
    readElements settings fields text = .ok (settings, rest) := by
  unfold readElements
  split <;> simp_all

theorem readElements_of_comma {settings : Settings} {fields : List Field} {after : List Char}
    (comma : skipBlanks text = ',' :: rest) (read : readSize rest = .ok (size, after)) :
    readElements settings (field :: fields) text =
      readElements (settings.set field size) fields after := by
  conv => lhs; unfold readElements
  split <;> simp_all

theorem readElements_append {fields : List Field} (written : SizesText text sizes)
    (few : sizes.length ≤ fields.length) (settings : Settings)
    (comma : skipBlanks other = ',' :: (text ++ ']' :: rest)) :
    readElements settings fields other = .ok (settings.overlaid (fields.zip sizes), rest) := by
  induction written generalizing settings fields other with
  | @last before digits after size blankBefore sized blankAfter =>
      have stops : Stops (']' :: rest) := stops_cons.mpr rfl
      have read := readSize_append blankBefore sized (stops_blanks_append blankAfter stops)
      rw [List.append_assoc] at comma
      cases fields with
      | nil => simp at few
      | cons field fields =>
          rw [readElements_of_comma comma read,
            readElements_of_closer (skipBlanks_append_cons blankAfter rfl)]
          simp [overlaid]
  | @more before digits after items size sizes blankBefore sized blankAfter _ inductionHypothesis =>
      have stops : Stops (',' :: (items ++ ']' :: rest)) := stops_cons.mpr rfl
      have read := readSize_append blankBefore sized (stops_blanks_append blankAfter stops)
      rw [List.append_assoc, List.append_assoc, List.cons_append] at comma
      cases fields with
      | nil => simp at few
      | cons field fields =>
          rw [readElements_of_comma comma read]
          exact inductionHypothesis (Nat.le_of_succ_le_succ few) _
            (skipBlanks_append_cons blankAfter rfl)

theorem ofJson_of_readForm {result : Except Fault Settings}
    (read : readForm text = result.map (·, rest)) (blank : Blanks rest) : ofJson text = result := by
  have ended : skipBlanks (rest ++ []) = [] := skipBlanks_blank_append blank
  rw [List.append_nil] at ended
  rw [ofJson, read]
  cases result with
  | error fault => rfl
  | ok settings => simp [Except.map, ended]

/-- An object is worth what its gifts come to. -/
theorem ofJson_of_objectText (written : ObjectText text given) :
    ofJson text = if (given.map Prod.fst).Nodup then .ok (({} : Settings).overlaid given)
      else .error .mismatched := by
  rw [← Draft.giveAll_initial_map_settings]
  cases written with
  | @empty before inside after blankBefore blankInside blankAfter =>
      apply ofJson_of_readForm _ blankAfter
      simp only [List.append_assoc, List.cons_append]
      rw [readForm, skipBlanks_append_cons blankBefore rfl]
      simp only [readObject, skipBlanks_append_cons blankInside (show isBlank '\x7d' = false from rfl)]
      rfl
  | @members before members after _ blankBefore written blankAfter =>
      apply ofJson_of_readForm _ blankAfter
      simp only [List.append_assoc, List.cons_append]
      rw [readForm, skipBlanks_append_cons blankBefore rfl]
      exact readObject_of_membersText written after

/-- A list is worth what the first fields with its sizes come to. -/
theorem ofJson_of_listText (written : ListText text sizes) (few : sizes.length ≤ Field.all.length) :
    ofJson text = .ok (({} : Settings).overlaid (Field.all.zip sizes)) := by
  cases written with
  | @empty before inside after blankBefore blankInside blankAfter =>
      apply ofJson_of_readForm _ blankAfter
      simp only [List.append_assoc, List.cons_append]
      rw [readForm, skipBlanks_append_cons blankBefore rfl]
      simp only [readList, skipBlanks_append_cons blankInside (show isBlank ']' = false from rfl)]
      rfl
  | @sizes before items after _ blankBefore written blankAfter =>
      apply ofJson_of_readForm _ blankAfter
      simp only [List.append_assoc, List.cons_append]
      rw [readForm, skipBlanks_append_cons blankBefore rfl]
      obtain ⟨first, remaining, start, starts⟩ := exists_start_of_sizesText written (']' :: after)
      simp only [readList_of_start start starts]
      exact readElements_append written few {} (skipBlanks_cons_of_not_blank rfl)

theorem nodup_map_fst_zip (sizes : List UInt64) : ((Field.all.zip sizes).map Prod.fst).Nodup := by
  rw [List.zip_eq_zip_take_min, List.map_fst_zip (by simp)]
  exact List.Nodup.sublist (List.take_sublist _ _) (by decide)

/-- Reading an object lays the sizes that it gives over the defaults.  The order of its members, its
blanks and escapes and its other members do not matter, and a list is read like an object that gives
its sizes to the first fields.  An object that gives a field two sizes is refused. -/
theorem json_overlays_defaults :
    (∀ text given, ObjectText text given → (given.map Prod.fst).Nodup →
      ∃ settings, ofJson text = .ok settings ∧ Overlays given settings) ∧
    (∀ text given other others, ObjectText text given → ObjectText other others →
      given.Perm others → ofJson text = ofJson other) ∧
    (∀ text sizes, ListText text sizes → sizes.length ≤ Field.all.length →
      (∃ settings, ofJson text = .ok settings ∧ Overlays (Field.all.zip sizes) settings) ∧
      ∀ object given, ObjectText object given → given.Perm (Field.all.zip sizes) →
        ofJson text = ofJson object) ∧
    (∀ text given, ObjectText text given → ¬(given.map Prod.fst).Nodup →
      ofJson text = .error .mismatched) := by
  refine ⟨?_, ?_, ?_, ?_⟩
  · intro text given written distinct
    refine ⟨_, ?_, overlays_overlaid distinct⟩
    rw [ofJson_of_objectText written, if_pos distinct]
  · intro text given other others written otherWritten perm
    rw [ofJson_of_objectText written, ofJson_of_objectText otherWritten]
    have distinctIff := (perm.map Prod.fst).nodup_iff
    by_cases distinct : (given.map Prod.fst).Nodup
    · rw [if_pos distinct, if_pos (distinctIff.mp distinct), overlaid_eq_of_perm distinct perm]
    · rw [if_neg distinct, if_neg fun others => distinct (distinctIff.mpr others)]
  · intro text sizes written few
    have distinct := nodup_map_fst_zip sizes
    have read := ofJson_of_listText written few
    refine ⟨⟨_, read, overlays_overlaid distinct⟩, ?_⟩
    intro object given objectWritten perm
    rw [read, ofJson_of_objectText objectWritten]
    have given : (given.map Prod.fst).Nodup := (perm.map Prod.fst).nodup_iff.mpr distinct
    rw [if_pos given, overlaid_eq_of_perm given perm]
  · intro text given written repeated
    rw [ofJson_of_objectText written, if_neg repeated]

theorem wellFormed_nested :
    WellFormed .value "[ \x7b\"replacer_k\":[]\x7d,-1.5E+3,\"\\ud800\"]".toList := by
  have object : WellFormed .value "\x7b\"replacer_k\":[]\x7d".toList := by
    have key : StringText Field.replacerK.key.toList := (Spells.of_plain (by decide)).stringText
    have label := @Label.member [] _ [] [] (by decide) key (by decide) (by decide)
    have empty := @WellFormed.hollow .list [] (by decide)
    exact .filled (@WellFormed.last _ _ _ [] label empty (by decide))
  have number : WellFormed .value "-1.5E+3".toList := by
    have fraction : FractionText ".5".toList := .digits (by decide)
    have exponent := @ExponentText.digits 'E' ['+'] ['3'] (by decide) (by decide) (by decide)
    exact .number (@NumberText.parts ['-'] ['1'] _ _ (by decide) (by decide) fraction exponent)
  have string : WellFormed .value "\"\\ud800\"".toList :=
    .string (@StringText.unit "d800".toList [] 0xd800 (by decide) .empty)
  have last := @WellFormed.last .list [] _ [] (.element (by decide)) string (by decide)
  have others := @WellFormed.more .list [] _ [] _ (.element (by decide)) number (by decide) last
  exact .filled (@WellFormed.more .list [' '] _ [] _ (.element (by decide)) object (by decide) others)

theorem objectText_nested :
    ObjectText (" \x7b\"a\\\"b\":[ \x7b\"replacer_k\":[]\x7d,-1.5E+3,\"\\ud800\"],\n" ++
      "\"replacer\\u005fk\":7 \x7d").toList [(.replacerK, 7)] := by
  have unknown : MemberText
      "\"a\\\"b\":[ \x7b\"replacer_k\":[]\x7d,-1.5E+3,\"\\ud800\"]".toList [] := by
    have spells : Spells "a\\\"b".toList "a\"b".toList :=
      .bare (by decide) (.escape rfl (.of_plain (by decide)))
    have named := @NameText.parts [] _ [] [] _ (by decide) spells (by decide) (by decide)
    have notField : ∀ field : Field, "a\"b".toList ≠ field.key.toList := by
      intro field
      cases field <;> decide
    exact @MemberText.other _ _ _ [] named notField wellFormed_nested (by decide)
  have escaped : MemberText "\n\"replacer\\u005fk\":7 ".toList [(.replacerK, 7)] := by
    have spells : Spells "replacer\\u005fk".toList Field.replacerK.key.toList := by
      iterate 8 refine .bare (by decide) ?_
      exact @Spells.unit "005f".toList _ _ 0x5f (by decide) rfl rfl (.of_plain (by decide))
    have named := @NameText.parts ['\n'] _ [] [] _ (by decide) spells (by decide) (by decide)
    exact @MemberText.known _ ['7'] [' '] _ _ named (by decide) (by decide)
  exact @ObjectText.members [' '] _ [] _ (by decide) (.more unknown (.last escaped)) (by decide)

theorem json_overlays_defaults_nested :
    let nested := (" \x7b\"a\\\"b\":[ \x7b\"replacer_k\":[]\x7d,-1.5E+3,\"\\ud800\"],\n" ++
      "\"replacer\\u005fk\":7 \x7d").toList
    ofJson nested = .ok { replacerK := 7 } ∧
      ofJson nested = ofJson "\x7b\"replacer_k\":7\x7d".toList ∧
      ofJson "[1 ,0]".toList = ofJson "\x7b\"pool_size\":0,\"bucket_size\":1\x7d".toList ∧
      ofJson "\x7b\"pool_size\":0,\"pool_size\":1\x7d".toList = .error .mismatched := by
  obtain ⟨readOverlay, ignoresPresentation, readsLists, refusesRepeats⟩ := json_overlays_defaults
  have zero := @MemberText.plain ['0'] 0 .poolSize (by decide)
  have one := fun field => @MemberText.plain ['1'] 1 field (by decide)
  refine ⟨?_, ?_, ?_, ?_⟩
  · obtain ⟨settings, read, overlays⟩ := readOverlay _ _ objectText_nested (by decide)
    have expected : Overlays [(.replacerK, 7)] { replacerK := 7 } := by
      refine ⟨by decide, ?_⟩
      intro field
      cases field <;> decide
    rw [read, overlays.eq expected]
  · have seven := @MemberText.plain ['7'] 7 .replacerK (by decide)
    have object := @ObjectText.members [] _ [] _ (by decide) (.last seven) (by decide)
    exact ignoresPresentation _ _ _ _ objectText_nested object (.refl _)
  · have last := @SizesText.last [] ['0'] [] 0 (by decide) (by decide) (by decide)
    have sizes := @SizesText.more [] ['1'] [' '] _ 1 _ (by decide) (by decide) (by decide) last
    have list := @ListText.sizes [] _ [] _ (by decide) sizes (by decide)
    have members := MembersText.more zero (.last (one .bucketSize))
    have object := @ObjectText.members [] _ [] _ (by decide) members (by decide)
    exact (readsLists _ _ list (by decide)).2 _ _ object (by decide)
  · have members := MembersText.more zero (.last (one .poolSize))
    have object := @ObjectText.members [] _ [] _ (by decide) members (by decide)
    exact refusesRepeats _ _ object (by decide)

end PageBuffer.Settings
