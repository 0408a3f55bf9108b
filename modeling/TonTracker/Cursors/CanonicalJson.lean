/-
# `Cursors.CanonicalJson` — canonical JSON tells its values apart

`json.dumps` with sorted keys and no spaces writes different texts for
different values (`dumpedText_inj`), as long as there are no floats and no
escapes, and the members come in the order of their keys.  Each value is
told apart from every other by what follows it, a comma or a closing bracket
(`told_text`, one case a constructor).
-/
import TonTracker.Cursors.Exact
import TonTracker.Lib.PrefixCode

namespace TonTracker

open PrefixCode (Ends Told joined run_inj joined_inj mem_joined ends_cons ends_nil)

namespace Json

mutual

/-- No floats, no characters to escape, and keys in order. -/
def Canonical : Json → Prop
  | .float _ => False
  | .str s => s.all isPlain = true
  | .arr values => CanonicalItems values
  | .obj fields => (fields.map Prod.fst).Pairwise (· ≤ ·) ∧ CanonicalMembers fields
  | _ => True

def CanonicalItems : List Json → Prop
  | [] => True
  | value :: values => value.Canonical ∧ CanonicalItems values

def CanonicalMembers : List (String × Json) → Prop
  | [] => True
  | (key, value) :: fields =>
      key.toList.all isPlain = true ∧ value.Canonical ∧ CanonicalMembers fields

end

theorem canonical_null : Json.null.Canonical := by
  simp only [Canonical]

theorem canonical_int (i : Int) : (Json.int i).Canonical := by
  simp only [Canonical]

theorem canonical_str {s : Text} (h : s.all isPlain = true) : (Json.str s).Canonical := by
  rw [Canonical]
  exact h

mutual

/-- The text of a canonical value. -/
def text : Json → Text
  | .null => ['n', 'u', 'l', 'l']
  | .bool true => ['t', 'r', 'u', 'e']
  | .bool false => ['f', 'a', 'l', 's', 'e']
  | .int i => if i < 0 then '-' :: Nat.toDigits 10 i.natAbs else Nat.toDigits 10 i.natAbs
  | .float _ => []
  | .str s => '"' :: (s ++ ['"'])
  | .arr values => '[' :: (joined ',' (itemTexts values) ++ [']'])
  | .obj fields => '\x7b' :: (joined ',' (memberTexts fields) ++ ['\x7d'])

def itemTexts : List Json → List Text
  | [] => []
  | value :: values => value.text :: itemTexts values

def memberTexts : List (String × Json) → List Text
  | [] => []
  | (key, value) :: fields =>
      ('"' :: (key.toList ++ '"' :: ':' :: value.text)) :: memberTexts fields

end

/-! ## What `json.dumps` writes -/

theorem commaJoined_eq (texts : List Text) : commaJoined texts = joined ',' texts := by
  induction texts with
  | nil => rfl
  | cons text texts ih =>
      cases texts with
      | nil => rfl
      | cons next texts => rw [commaJoined, joined, ih] <;> exact List.cons_ne_nil _ _

variable {lib : CursorLibrary} {allowNan : Bool}

mutual

theorem dumpedText_eq : ∀ {value : Json}, value.Canonical →
    dumpedText lib allowNan value = some value.text
  | .null, _ => by rw [dumpedText, text]
  | .bool true, _ => by rw [dumpedText, text]
  | .bool false, _ => by rw [dumpedText, text]
  | .int i, _ => by rw [dumpedText, text]
  | .float _, h => by rw [Canonical] at h; exact h.elim
  | .str s, h => by
      rw [Canonical] at h
      rw [dumpedText, text, jsonString_plain h]
  | .arr values, h => by
      rw [Canonical] at h
      rw [dumpedText, dumpedTexts_eq h, Option.map_some, text, commaJoined_eq]
  | .obj fields, h => by
      rw [Canonical] at h
      obtain ⟨members, hmembers, hkeys, htexts⟩ := dumpedMembers_eq h.2
      rw [dumpedText, hmembers, Option.map_some, sortedMembers_eq (hkeys ▸ h.1), htexts, text,
        commaJoined_eq]

theorem dumpedTexts_eq : ∀ {values : List Json}, CanonicalItems values →
    dumpedTexts lib allowNan values = some (itemTexts values)
  | [], _ => by rw [dumpedTexts, itemTexts]
  | value :: values, h => by
      rw [CanonicalItems] at h
      rw [dumpedTexts, dumpedText_eq h.1, Option.bind_some, dumpedTexts_eq h.2, Option.map_some,
        itemTexts]

theorem dumpedMembers_eq : ∀ {fields : List (String × Json)}, CanonicalMembers fields →
    ∃ members, dumpedMembers lib allowNan fields = some members ∧
      members.map Prod.fst = fields.map Prod.fst ∧
      members.map (fun member => jsonString member.1.toList ++ ':' :: member.2) =
        memberTexts fields
  | [], _ => ⟨[], by rw [dumpedMembers], rfl, by rw [memberTexts]; rfl⟩
  | (key, value) :: fields, h => by
      rw [CanonicalMembers] at h
      obtain ⟨members, hmembers, hkeys, htexts⟩ := dumpedMembers_eq h.2.2
      refine ⟨(key, value.text) :: members, ?_, ?_, ?_⟩
      · rw [dumpedMembers, dumpedText_eq h.2.1, Option.bind_some, hmembers, Option.map_some]
      · rw [List.map_cons, List.map_cons, hkeys]
      · rw [List.map_cons, htexts, memberTexts, jsonString_plain h.1]
        simp

end

/-! ## Telling values apart -/

/-- A comma or a closing bracket. -/
def IsDelimiter (c : Char) : Prop := c = ',' ∨ c = ']' ∨ c = '\x7d'

/-- The constructor of a value, from its first character. -/
def leadOf (c : Char) : Nat :=
  if c = 'n' then 0
  else if c = 't' ∨ c = 'f' then 1
  else if c = '"' then 2
  else if c = '[' then 3
  else if c = '\x7b' then 4
  else 5

def lead : Json → Nat
  | .null => 0
  | .bool _ => 1
  | .str _ => 2
  | .arr _ => 3
  | .obj _ => 4
  | _ => 5

theorem digits_char {n : Nat} {c : Char} (h : c ∈ Nat.toDigits 10 n) :
    48 ≤ c.toNat ∧ c.toNat ≤ 57 := by
  have hdigit := Nat.isDigit_of_mem_toDigits (by decide) (by decide) h
  simp only [Char.isDigit, ge_iff_le, Bool.and_eq_true, decide_eq_true_eq, UInt32.le_iff_toNat_le]
    at hdigit
  exact hdigit

theorem int_text_char {i : Int} {c : Char} (h : c ∈ (Json.int i).text) :
    c = '-' ∨ 48 ≤ c.toNat ∧ c.toNat ≤ 57 := by
  rw [text] at h
  split at h
  · rcases List.mem_cons.mp h with rfl | h
    · exact .inl rfl
    · exact .inr (digits_char h)
  · exact .inr (digits_char h)

/-- Where the text of a value starts. -/
theorem text_starts {value : Json} (h : value.Canonical) :
    ∃ c rest, value.text = c :: rest ∧ leadOf c = value.lead ∧ c ≠ ']' ∧ c ≠ '\x7d' := by
  cases value with
  | null => exact ⟨'n', _, by rw [text], by decide, by decide, by decide⟩
  | bool b => cases b <;> exact ⟨_, _, by rw [text], by decide, by decide, by decide⟩
  | float literal =>
      rw [Canonical] at h
      exact h.elim
  | str s => exact ⟨'"', _, by rw [text], rfl, by decide, by decide⟩
  | arr values => exact ⟨'[', _, by rw [text], rfl, by decide, by decide⟩
  | obj fields => exact ⟨'\x7b', _, by rw [text], rfl, by decide, by decide⟩
  | int i =>
      have hne : (Json.int i).text ≠ [] := by
        rw [text]
        split
        · exact List.cons_ne_nil _ _
        · exact Nat.toDigits_ne_nil
      obtain ⟨c, rest, heq⟩ := List.exists_cons_of_ne_nil hne
      have hc : c = '-' ∨ 48 ≤ c.toNat ∧ c.toNat ≤ 57 :=
        int_text_char (i := i) (heq ▸ List.mem_cons_self)
      have other : ∀ d : Char, (d ≠ '-' ∧ ¬ (48 ≤ d.toNat ∧ d.toNat ≤ 57)) → c ≠ d := by
        rintro d ⟨hminus, hdigit⟩ rfl
        exact hc.elim hminus hdigit
      refine ⟨c, rest, heq, ?_, other _ (by decide), other _ (by decide)⟩
      unfold leadOf
      rw [if_neg (other _ (by decide)), if_neg (by
          rintro (h | h)
          · exact other _ (by decide) h
          · exact other _ (by decide) h),
        if_neg (other _ (by decide)), if_neg (other _ (by decide)), if_neg (other _ (by decide))]
      rfl

/-- Texts that agree start with the same constructor. -/
theorem lead_eq {value value' : Json} (h : value.Canonical) (h' : value'.Canonical)
    {rest rest' : Text} (heq : value.text ++ rest = value'.text ++ rest') :
    value.lead = value'.lead := by
  obtain ⟨c, text, htext, hlead, -⟩ := text_starts h
  obtain ⟨c', text', htext', hlead', -⟩ := text_starts h'
  rw [htext, htext'] at heq
  rw [← hlead, ← hlead', (List.cons.inj heq).1]

theorem int_told {i i' : Int} {rest rest' : Text} (hrest : Ends IsDelimiter rest)
    (hrest' : Ends IsDelimiter rest')
    (h : (Json.int i).text ++ rest = (Json.int i').text ++ rest') : i = i' ∧ rest = rest' := by
  have plain : ∀ (i : Int), ∀ c ∈ (Json.int i).text, ¬ IsDelimiter c := by
    intro i c hc
    rcases int_text_char hc with rfl | hdigit
    · unfold IsDelimiter
      decide
    · rintro (rfl | rfl | rfl) <;> revert hdigit <;> decide
  obtain ⟨htext, hsame⟩ := run_inj (plain i) (plain i') hrest hrest' h
  refine ⟨?_, hsame⟩
  have digits : ∀ {m n : Nat}, Nat.toDigits 10 m = Nat.toDigits 10 n → m = n := by
    intro m n heq
    have := congrArg (Nat.ofDigitChars 10 · 0) heq
    rwa [Nat.ofDigitChars_ten_toDigits, Nat.ofDigitChars_ten_toDigits] at this
  have minus : ∀ {m n : Nat}, '-' :: Nat.toDigits 10 m ≠ Nat.toDigits 10 n := by
    intro m n heq
    have := digits_char (n := n) (heq ▸ List.mem_cons_self : '-' ∈ _)
    revert this
    decide
  rw [text, text] at htext
  split at htext
  · split at htext
    · have := digits (List.cons.inj htext).2
      omega
    · exact absurd htext minus
  · split at htext
    · exact absurd htext.symm minus
    · have := digits htext
      omega

theorem quoted_inj {s s' : Text} (h : s.all isPlain = true) (h' : s'.all isPlain = true)
    {rest rest' : Text} (heq : s ++ '"' :: rest = s' ++ '"' :: rest') : s = s' ∧ rest = rest' := by
  have plain : ∀ {s : Text}, s.all isPlain = true → ∀ c ∈ s, ¬ c = '"' := by
    intro s hs c hc
    have := List.all_eq_true.mp hs c hc
    simp only [isPlain, Bool.and_eq_true, decide_eq_true_eq] at this
    exact this.1.2
  obtain ⟨hs, hrest⟩ := run_inj (plain h) (plain h') (ends_cons rfl)
    (ends_cons rfl) heq
  exact ⟨hs, (List.cons.inj hrest).2⟩

/-- The members of an object, as their texts are written. -/
def memberText (field : String × Json) : Text :=
  '"' :: (field.1.toList ++ '"' :: ':' :: field.2.text)

theorem itemTexts_eq (values : List Json) : itemTexts values = values.map text := by
  induction values with
  | nil => rw [itemTexts, List.map_nil]
  | cons value values ih => rw [itemTexts, ih, List.map_cons]

theorem memberTexts_eq (fields : List (String × Json)) :
    memberTexts fields = fields.map memberText := by
  induction fields with
  | nil => rw [memberTexts, List.map_nil]
  | cons field fields ih =>
      rw [memberTexts, ih, List.map_cons]
      rfl

theorem canonicalItems_iff {values : List Json} :
    CanonicalItems values ↔ ∀ value ∈ values, value.Canonical := by
  induction values with
  | nil => simp [CanonicalItems]
  | cons value values ih => rw [CanonicalItems, ih, List.forall_mem_cons]

/-- A member with a plain key and a canonical value. -/
def CanonicalMember (field : String × Json) : Prop :=
  field.1.toList.all isPlain = true ∧ field.2.Canonical

theorem canonicalMembers_iff {fields : List (String × Json)} :
    CanonicalMembers fields ↔ ∀ field ∈ fields, CanonicalMember field := by
  induction fields with
  | nil => simp [CanonicalMembers]
  | cons field fields ih =>
      rw [CanonicalMembers, ih, List.forall_mem_cons, CanonicalMember, and_assoc]

/-- An object, from its keys and its values. -/
theorem canonical_obj (keys : List String) {fields : List (String × Json)}
    (hkeys : fields.map Prod.fst = keys) (ordered : keys.Pairwise (· ≤ ·))
    (plain : ∀ key ∈ keys, key.toList.all isPlain = true)
    (values : ∀ field ∈ fields, field.2.Canonical) : (Json.obj fields).Canonical := by
  subst hkeys
  rw [Canonical]
  exact ⟨ordered, canonicalMembers_iff.mpr fun field hfield =>
    ⟨plain _ (List.mem_map_of_mem hfield), values field hfield⟩⟩

theorem member_told {field : String × Json} (h : CanonicalMember field)
    (told : Told IsDelimiter Canonical text field.2) :
    Told IsDelimiter CanonicalMember memberText field := by
  obtain ⟨key, value⟩ := field
  rintro ⟨key', value'⟩ rest rest' h' hrest hrest' heq
  simp only [memberText, List.cons_append, List.append_assoc, List.cons.injEq, true_and] at heq
  obtain ⟨hkey, heq⟩ := quoted_inj h.1 h'.1 heq
  obtain ⟨rfl, hsame⟩ := told value' rest rest' h'.2 hrest hrest' (List.cons.inj heq).2
  exact ⟨Prod.ext (String.toList_inj.mp hkey) rfl, hsame⟩

mutual

/-- The text of a value, told apart from every other by what follows it. -/
theorem told_text : ∀ value : Json, value.Canonical → Told IsDelimiter Canonical text value
  | .null, h => by
      intro value' rest rest' h' hrest hrest' heq
      have hlead := lead_eq h h' heq
      cases value' <;> cases hlead
      exact ⟨rfl, List.append_cancel_left heq⟩
  | .bool b, h => by
      intro value' rest rest' h' hrest hrest' heq
      have hlead := lead_eq h h' heq
      cases value' <;> cases hlead
      rename_i b'
      cases b <;> cases b' <;> simp_all [text]
  | .int i, h => by
      intro value' rest rest' h' hrest hrest' heq
      have hlead := lead_eq h h' heq
      cases value' <;> cases hlead
      · obtain ⟨rfl, hsame⟩ := int_told hrest hrest' heq
        exact ⟨rfl, hsame⟩
      · rw [Canonical] at h'
        exact h'.elim
  | .float _, h => by
      rw [Canonical] at h
      exact h.elim
  | .str s, h => by
      intro value' rest rest' h' hrest hrest' heq
      have hlead := lead_eq h h' heq
      cases value' <;> cases hlead
      rw [Canonical] at h h'
      simp only [text, List.cons_append, List.append_assoc, List.cons.injEq, true_and,
        List.nil_append] at heq
      obtain ⟨rfl, hsame⟩ := quoted_inj h h' heq
      exact ⟨rfl, hsame⟩
  | .arr values, h => by
      intro value' rest rest' h' hrest hrest' heq
      have hlead := lead_eq h h' heq
      cases value' <;> cases hlead
      rw [Canonical] at h h'
      simp only [text, List.cons_append, List.append_assoc, List.cons.injEq, true_and,
        List.nil_append, itemTexts_eq] at heq
      obtain ⟨rfl, hsame⟩ := joined_inj (.inl rfl) (.inr (.inl rfl)) (by decide)
        (fun value hvalue => by
          obtain ⟨c, rest, htext, -, hc, -⟩ := text_starts hvalue
          exact ⟨c, rest, htext, hc⟩)
        (told_items values h) (canonicalItems_iff.mp h') heq
      exact ⟨rfl, hsame⟩
  | .obj fields, h => by
      intro value' rest rest' h' hrest hrest' heq
      have hlead := lead_eq h h' heq
      cases value' <;> cases hlead
      rw [Canonical] at h h'
      simp only [text, List.cons_append, List.append_assoc, List.cons.injEq, true_and,
        List.nil_append, memberTexts_eq] at heq
      obtain ⟨rfl, hsame⟩ := joined_inj (.inl rfl) (.inr (.inr rfl)) (by decide)
        (fun field _ => ⟨_, _, rfl, by decide⟩)
        (told_members fields h.2) (canonicalMembers_iff.mp h'.2) heq
      exact ⟨rfl, hsame⟩

theorem told_items : ∀ values : List Json, CanonicalItems values →
    ∀ value ∈ values, value.Canonical ∧ Told IsDelimiter Canonical text value
  | [], _ => fun _ h => nomatch h
  | value :: values, h => by
      rw [CanonicalItems] at h
      rw [List.forall_mem_cons]
      exact ⟨⟨h.1, told_text value h.1⟩, told_items values h.2⟩

theorem told_members : ∀ fields : List (String × Json), CanonicalMembers fields →
    ∀ field ∈ fields, CanonicalMember field ∧ Told IsDelimiter CanonicalMember memberText field
  | [], _ => fun _ h => nomatch h
  | (key, value) :: fields, h => by
      rw [CanonicalMembers] at h
      rw [List.forall_mem_cons]
      exact ⟨⟨⟨h.1, h.2.1⟩, member_told ⟨h.1, h.2.1⟩ (told_text value h.2.1)⟩,
        told_members fields h.2.2⟩

end

theorem text_inj {value value' : Json} (h : value.Canonical) (h' : value'.Canonical) :
    value.text = value'.text ↔ value = value' := by
  refine ⟨fun heq => ?_, fun heq => by rw [heq]⟩
  exact (told_text value h value' [] [] h' ends_nil ends_nil (by rw [heq])).1

/-! ## As octets -/

theorem ascii_of_plain {s : Text} (h : s.all isPlain = true) : ∀ c ∈ s, c.toNat < 256 := by
  intro c hc
  have hplain := List.all_eq_true.mp h c hc
  simp only [isPlain, Bool.and_eq_true, decide_eq_true_eq] at hplain
  exact Nat.lt_of_le_of_lt hplain.1.1.2 (by decide)

mutual

theorem text_ascii : ∀ value : Json, value.Canonical → ∀ c ∈ value.text, c.toNat < 256
  | .null, _ => by
      rw [text]
      exact ascii_of_plain rfl
  | .bool true, _ => by
      rw [text]
      exact ascii_of_plain rfl
  | .bool false, _ => by
      rw [text]
      exact ascii_of_plain rfl
  | .int i, _ => by
      intro c hc
      rcases int_text_char hc with rfl | hdigit
      · decide
      · omega
  | .float _, h => by
      rw [Canonical] at h
      exact h.elim
  | .str s, h => by
      rw [Canonical] at h
      rw [text, List.forall_mem_cons, List.forall_mem_append, List.forall_mem_singleton]
      exact ⟨by decide, ascii_of_plain h, by decide⟩
  | .arr values, h => by
      rw [Canonical] at h
      rw [text, List.forall_mem_cons, List.forall_mem_append, List.forall_mem_singleton]
      refine ⟨by decide, fun c hc => ?_, by decide⟩
      rcases mem_joined hc with rfl | ⟨item, hitem, hc⟩
      · decide
      · rw [itemTexts_eq] at hitem
        obtain ⟨value, hvalue, rfl⟩ := List.mem_map.mp hitem
        exact items_ascii values h value hvalue c hc
  | .obj fields, h => by
      rw [Canonical] at h
      rw [text, List.forall_mem_cons, List.forall_mem_append, List.forall_mem_singleton]
      refine ⟨by decide, fun c hc => ?_, by decide⟩
      rcases mem_joined hc with rfl | ⟨member, hmember, hc⟩
      · decide
      · rw [memberTexts_eq] at hmember
        obtain ⟨field, hfield, rfl⟩ := List.mem_map.mp hmember
        exact members_ascii fields h.2 field hfield c hc

theorem items_ascii : ∀ values : List Json, CanonicalItems values →
    ∀ value ∈ values, ∀ c ∈ value.text, c.toNat < 256
  | [], _ => fun _ h => nomatch h
  | value :: values, h => by
      rw [CanonicalItems] at h
      rw [List.forall_mem_cons]
      exact ⟨text_ascii value h.1, items_ascii values h.2⟩

theorem members_ascii : ∀ fields : List (String × Json), CanonicalMembers fields →
    ∀ field ∈ fields, ∀ c ∈ memberText field, c.toNat < 256
  | [], _ => fun _ h => nomatch h
  | (key, value) :: fields, h => by
      rw [CanonicalMembers] at h
      rw [List.forall_mem_cons]
      refine ⟨?_, members_ascii fields h.2.2⟩
      rw [memberText, List.forall_mem_cons, List.forall_mem_append, List.forall_mem_cons,
        List.forall_mem_cons]
      exact ⟨by decide, ascii_of_plain h.1, by decide, by decide, text_ascii value h.2.1⟩

end

theorem asciiOctets_inj {s s' : Text} (h : ∀ c ∈ s, c.toNat < 256) (h' : ∀ c ∈ s', c.toNat < 256)
    (heq : asciiOctets s = asciiOctets s') : s = s' := by
  induction s generalizing s' with
  | nil => exact (List.map_eq_nil_iff.mp heq.symm).symm
  | cons c s ih =>
      cases s' with
      | nil => cases heq
      | cons c' s' =>
          rw [List.forall_mem_cons] at h h'
          obtain ⟨hc, hs⟩ := List.cons.inj heq
          have hc : c.toNat % 256 = c'.toNat % 256 := congrArg Fin.val hc
          rw [Nat.mod_eq_of_lt h.1, Nat.mod_eq_of_lt h'.1] at hc
          rw [Char.toNat_inj.mp hc, ih h.2 h'.2 hs]

/-- `canonical.encode("utf-8")`, for different values, is different. -/
theorem dumpedOctets_inj {value value' : Json} (h : value.Canonical) (h' : value'.Canonical) :
    (dumpedText lib allowNan value).map asciiOctets =
      (dumpedText lib allowNan value').map asciiOctets ↔ value = value' := by
  refine ⟨fun heq => ?_, fun heq => by rw [heq]⟩
  rw [dumpedText_eq h, dumpedText_eq h', Option.map_some, Option.map_some] at heq
  exact (text_inj h h').mp (asciiOctets_inj (text_ascii value h) (text_ascii value' h')
    (Option.some.inj heq))

end Json

end TonTracker
