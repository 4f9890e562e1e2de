import PanelKeys.Proofs.Text.Trim
import PanelKeys.Typing.KeyPress

/-!
# Chords on paper and on the keyboard

A chord comes into a table from the text of the settings, is listed under a text of its own, and is
looked up by the key that is pressed.  Three readers are at work there, and each has its own rules:
for the settings both `-` and `+` close a modifier, for key presses only `-` does, and a key that is
pressed is brought into its normal form once more.

* `Chord.Typable` — a chord in its normal form, whose key can be seen;
* `Chord.Spells` — how the settings spell a chord; **`Chord.ofTrimmed_eq_ok_iff`**, that they accept
  no other spelling;
* `Chord.Typable.of_parse` — the settings spell no other chords;
* `Chord.press` — the plain way to press a chord; `Typable.chord?_press`, that it does press it;
* **`Typable.parse_text`** — the text under which a chord is listed spells that press, also where
  the key is a dash, a plus or a letter outside ASCII;
* **`Chord.read_iff_spelled_and_again`** — for the settings it spells the chord again.
-/

namespace PanelKeys

open PanelKeys.Text

namespace Text

lemma lowerAscii_of_not_capital {c : Char} (h : ('A' ≤ c && c ≤ 'Z') = false) :
    lowerAscii c = c := by
  simp [lowerAscii, h]

/-- A folded capital is the letter thirty-two places on. -/
lemma toNat_lowerAscii_of_capital {c : Char} (h : ('A' ≤ c && c ≤ 'Z') = true) :
    65 ≤ c.toNat ∧ c.toNat ≤ 90 ∧ (lowerAscii c).toNat = c.toNat + 32 := by
  simp only [Bool.and_eq_true, decide_eq_true_eq] at h
  have hlow : 65 ≤ c.toNat := h.1
  have hhigh : c.toNat ≤ 90 := h.2
  have hvalid : (c.toNat + 32).isValidChar := by
    left
    omega
  refine ⟨hlow, hhigh, ?_⟩
  rw [lowerAscii, if_pos (by simpa using h), Char.ofNat, dif_pos hvalid]
  rfl

/-- **Folding twice is folding once.** -/
@[simp] theorem lowerAscii_lowerAscii (c : Char) : lowerAscii (lowerAscii c) = lowerAscii c := by
  cases hc : 'A' ≤ c && c ≤ 'Z' with
  | false => rw [lowerAscii_of_not_capital hc, lowerAscii_of_not_capital hc]
  | true =>
      obtain ⟨hlow, -, hfolded⟩ := toNat_lowerAscii_of_capital hc
      refine lowerAscii_of_not_capital ?_
      have hbehind : ¬ (lowerAscii c).toNat ≤ 90 := by omega
      simpa using fun _ => Char.not_le.1 hbehind

lemma isBlank_lowerAscii {c : Char} (h : isBlank c = false) : isBlank (lowerAscii c) = false := by
  cases hc : 'A' ≤ c && c ≤ 'Z' with
  | false => rwa [lowerAscii_of_not_capital hc]
  | true =>
      obtain ⟨hlow, hhigh, hfolded⟩ := toNat_lowerAscii_of_capital hc
      simp only [isBlank, Bool.or_eq_false_iff, Bool.and_eq_false_iff, decide_eq_false_iff_not,
        beq_eq_false_iff_ne]
      omega

end Text

namespace Chord

/-- A chord that a key press can have and a text can spell. -/
structure Typable (c : Chord) : Prop where
  normal : ofTyped c.key c.shift = c
  visible : isBlank c.key = false

/-- **What has been brought into its normal form stays in it.** -/
@[simp] theorem ofTyped_ofTyped (key : Char) (shift : Bool) :
    ofTyped (ofTyped key shift).key (ofTyped key shift).shift = ofTyped key shift := by
  cases hkey : isUppercase key with
  | false => simp [ofTyped, hkey]
  | true => simp [ofTyped, hkey, shifted]

lemma typable_ofTyped {key : Char} (h : isBlank key = false) (shift : Bool) :
    (ofTyped key shift).Typable where
  normal := ofTyped_ofTyped key shift
  visible := by
    cases hkey : isUppercase key with
    | false => simpa [ofTyped, hkey] using h
    | true => simpa [ofTyped, hkey, shifted] using isBlank_lowerAscii h

/-! ## The settings -/

lemma ofSingle_eq_ok {shift : Bool} {cs : List Char} {c : Chord} (h : ofSingle shift cs = .ok c) :
    ∃ key, cs = [key] ∧ c = ofTyped key shift := by
  simp only [ofSingle] at h
  split at h
  · next key =>
      rw [Except.ok.injEq] at h
      exact ⟨key, rfl, h.symm⟩
  · simp at h

/-- How a chord is spelled: its key alone, or `shift` in letters of either case, one of the two
separators and the key.  The key may be a separator itself. -/
inductive Spells : List Char → Chord → Prop
  | single (key : Char) : Spells [key] (ofTyped key false)
  | shifted {name : List Char} {separator : Char} (key : Char) : name.map lowerAscii = shiftName →
      isSeparator separator = true → Spells (name ++ [separator, key]) (ofTyped key true)

/-- No letter of `shift` is a separator, in either case. -/
lemma isSeparator_of_mem_name {name : List Char} (hname : name.map lowerAscii = shiftName) :
    ∀ c ∈ name, isSeparator c = false := by
  intro c hc
  have hletter : lowerAscii c ∈ shiftName := hname ▸ List.mem_map_of_mem hc
  cases hseparator : isSeparator c with
  | false => rfl
  | true =>
      simp only [isSeparator, Bool.or_eq_true, decide_eq_true_eq] at hseparator
      rcases hseparator with rfl | rfl
      · exact absurd hletter (by decide)
      · exact absurd hletter (by decide)

/-- **The settings accept these spellings and no others.** -/
theorem ofTrimmed_eq_ok_iff {cs : List Char} {c : Chord} : ofTrimmed cs = .ok c ↔ Spells cs c := by
  constructor
  · intro h
    simp only [ofTrimmed] at h
    split at h
    · simp at h
    · split at h
      · obtain ⟨key, rfl, rfl⟩ := ofSingle_eq_ok h
        exact .single key
      · next modifier rest hsplit =>
          split at h
          · obtain ⟨key, rfl, rfl⟩ := ofSingle_eq_ok h
            exact .single key
          · split at h
            · next hname =>
                obtain ⟨key, rfl, rfl⟩ := ofSingle_eq_ok h
                obtain ⟨separator, hseparator, rfl, -⟩ := eq_append_of_splitFirst? hsplit
                exact .shifted key hname hseparator
            · simp at h
  · rintro (key | ⟨key, hname, hseparator⟩)
    · -- a separator alone has nothing behind it, and is the key
      rw [ofTrimmed, if_neg (by simp), splitFirst?, splitFirst?]
      cases isSeparator key <;> rfl
    · rw [ofTrimmed, if_neg (by simp),
        splitFirst?_append (isSeparator_of_mem_name hname) hseparator]
      simp only [List.isEmpty_cons, Bool.false_eq_true, if_false, if_pos hname, ofSingle]

/-- The key of a chord is the last character of its text. -/
lemma Spells.exists_key {cs : List Char} {c : Chord} (h : Spells cs c) :
    ∃ before key shift, cs = before ++ [key] ∧ c = ofTyped key shift := by
  cases h with
  | single key => exact ⟨[], key, false, rfl, rfl⟩
  | shifted key _ _ => exact ⟨_ ++ [_], key, true, by rw [List.append_assoc]; rfl, rfl⟩

/-- **The settings spell chords in their normal form, with keys that can be seen.** -/
theorem Typable.of_parse {s : String} {c : Chord} (h : parse s = .ok c) : c.Typable := by
  obtain ⟨before, key, shift, hcs, rfl⟩ := (ofTrimmed_eq_ok_iff.1 h).exists_key
  exact typable_ofTyped (isBlank_of_trimChars_eq_concat hcs) shift

/-! ## The keyboard -/

/-- The plain way to press a chord. -/
def press (c : Chord) : KeyPress := ⟨.char c.key, { shift := c.shift }⟩

lemma Typable.chord?_press {c : Chord} (h : c.Typable) : c.press.chord? = some c := by
  simp [KeyPress.chord?, press, Modifiers.hasCommand, h.normal]

/-- One character is a key, also if it is a dash. -/
lemma readModifiers_single (m : Modifiers) (key : Char) :
    KeyPress.readModifiers m [key] = .ok (m, [key]) := by
  have hcut : splitFirst? KeyPress.isDash [key]
      = if KeyPress.isDash key then some ([], []) else none := rfl
  rw [KeyPress.readModifiers]
  split
  · rfl
  · next name tail hsome =>
      rw [hcut] at hsome
      have hname : name = [] := by
        split at hsome
        · simp only [Option.some.injEq, Prod.mk.injEq] at hsome
          exact hsome.1.symm
        · simp at hsome
      simp [hname]

/-- The modifiers of a chord's text are read off, and its key is left. -/
lemma readModifiers_chars (c : Chord) :
    KeyPress.readModifiers {} c.chars = .ok ({ shift := c.shift }, [c.key]) := by
  cases hshift : c.shift with
  | false =>
      rw [chars, hshift, if_neg Bool.false_ne_true]
      exact readModifiers_single {} c.key
  | true =>
      have hcut : splitFirst? KeyPress.isDash (shiftName ++ ['-', c.key])
          = some (shiftName, [c.key]) := rfl
      have hname : Modifiers.add? {} (String.ofList (shiftName.map lowerAscii))
          = some { shift := true } := by
        decide
      rw [chars, hshift, if_pos rfl, KeyPress.readModifiers]
      split
      · next hnone => simp [hcut] at hnone
      · next name tail hsome =>
          rw [hcut, Option.some.injEq, Prod.mk.injEq] at hsome
          obtain ⟨rfl, rfl⟩ := hsome
          rw [hname]
          exact readModifiers_single { shift := true } c.key

/-- A chord's text has no blanks around it. -/
lemma Typable.trimChars_chars {c : Chord} (h : c.Typable) : trimChars c.chars = c.chars := by
  have hkey : NoLeadingBlank [c.key] := noLeadingBlank_cons h.visible []
  cases hshift : c.shift with
  | false =>
      rw [chars, hshift, if_neg Bool.false_ne_true]
      exact trimChars_eq_self hkey hkey
  | true =>
      rw [chars, hshift, if_pos rfl]
      refine trimChars_eq_self (noLeadingBlank_cons (by decide) _) ?_
      rw [List.reverse_append]
      exact hkey.append (noLeadingBlank_cons (by decide) _)

lemma Typable.trimChars_text {c : Chord} (h : c.Typable) : trimChars c.text.toList = c.chars := by
  rw [text, String.toList_ofList, h.trimChars_chars]

/-- **The text under which a chord is listed spells its press.** -/
theorem Typable.parse_text {c : Chord} (h : c.Typable) : KeyPress.parse c.text = .ok c.press := by
  have hchars : trimChars c.text.toList = c.chars := h.trimChars_text
  have hne : c.chars.isEmpty = false := by
    cases hshift : c.shift <;> simp [chars, hshift]
  rw [KeyPress.parse]
  simp only [hchars, hne, Bool.false_eq_true, if_false, readModifiers_chars]
  rfl

/-! ## The settings again -/

/-- **The text under which a chord is listed spells the chord.** -/
lemma Typable.spells_chars {c : Chord} (h : c.Typable) : Spells c.chars c := by
  have hkey : ofTyped c.key c.shift = c := h.normal
  cases hshift : c.shift with
  | false =>
      rw [hshift] at hkey
      rw [chars, hshift, if_neg Bool.false_ne_true]
      simpa only [hkey] using Spells.single c.key
  | true =>
      rw [hshift] at hkey
      have hname : shiftName.map lowerAscii = shiftName := by decide
      have hdash : isSeparator '-' = true := by decide
      rw [chars, hshift, if_pos rfl]
      simpa only [hkey] using Spells.shifted c.key hname hdash

/-- **A chord is read exactly of the texts that spell it**, blanks around them aside: of a
character, or of `shift` in letters of either case, `-` or `+`, and a character.  What is read is in
its normal form, and it is read again of the text under which it is listed. -/
theorem read_iff_spelled_and_again (s : String) :
    (∀ c, parse s = .ok c ↔ Spells (trimChars s.toList) c)
      ∧ ∀ c, parse s = .ok c → ofTyped c.key c.shift = c ∧ parse c.text = .ok c := by
  refine ⟨fun c => ofTrimmed_eq_ok_iff, fun c hread => ?_⟩
  have htypable : c.Typable := .of_parse hread
  refine ⟨htypable.normal, ofTrimmed_eq_ok_iff.2 ?_⟩
  rw [htypable.trimChars_text]
  exact htypable.spells_chars

/-- A capital outside ASCII keeps its form, and it keeps its shift. -/
theorem read_again_of_shifted_capital :
    parse " SHIFT+\u00C9 " = .ok (.shifted '\u00C9')
      ∧ Spells "SHIFT+\u00C9".toList (.shifted '\u00C9')
      ∧ ofTyped '\u00C9' true = .shifted '\u00C9'
      ∧ parse "shift-\u00C9" = .ok (.shifted '\u00C9') := by
  have hread : parse " SHIFT+\u00C9 " = .ok (.shifted '\u00C9') := by decide +kernel
  obtain ⟨hspelled, hagain⟩ := read_iff_spelled_and_again " SHIFT+\u00C9 "
  have htrim : trimChars " SHIFT+\u00C9 ".toList = "SHIFT+\u00C9".toList := by decide
  have htext : (shifted '\u00C9').text = "shift-\u00C9" := by decide
  obtain ⟨hnormal, hback⟩ := hagain _ hread
  rw [htext] at hback
  exact ⟨hread, htrim ▸ (hspelled _).1 hread, hnormal, hback⟩

end Chord

end PanelKeys
