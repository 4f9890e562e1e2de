import PanelKeys.Proofs.Command.ChordText

/-!
# Key presses on paper

A key press is read of many texts: its modifiers have several names, stand in any order and may be
repeated, and its key may be a dash or begin with one.  It is written in one form, modifiers first.

What the reader leaves when it has read the modifiers is a text in which it finds no further one,
and which ends with no blank since the whole text has been trimmed.  Any such text is read as the
same key behind any modifiers, and small letters do not change that; so what is written is read
again, if the key is written by such a text.  Every key is but one: the blank, which is read of its
name and written as itself.

* `Closed`, `IsKeyText` — no modifier is read off the front; a text that can stand for a key;
* `readModifiers_eq_ok`, `exists_isKeyText` — what the reader leaves is such a text;
* `readModifiers_modifierTexts`, `parse_modifierTexts_append` — behind the modifiers that are
  written it is read as its key;
* `parse_text_blank_ne` — the blank is not read of its text;
* **`read_again_iff`** — a key press that was read is read again of its text, unless its key is the
  blank.
-/

namespace PanelKeys

open PanelKeys.Text

namespace Text

lemma eq_dash_of_lowerAscii {c : Char} (h : lowerAscii c = '-') : c = '-' := by
  cases hc : 'A' ≤ c && c ≤ 'Z' with
  | false => rwa [lowerAscii_of_not_capital hc] at h
  | true =>
      obtain ⟨hlow, -, hfolded⟩ := toNat_lowerAscii_of_capital hc
      have hdash : (lowerAscii c).toNat = 45 := by rw [h]; rfl
      omega

lemma NoLeadingBlank.map_lowerAscii {cs : List Char} (h : NoLeadingBlank cs) :
    NoLeadingBlank (cs.map lowerAscii) := by
  cases cs with
  | nil => exact noLeadingBlank_nil
  | cons c rest => exact noLeadingBlank_cons (isBlank_lowerAscii (h c rfl)) _

end Text

namespace KeyPress

/-! ## Modifiers -/

/-- No modifier is read off the front: the first dash, if there is one, has nothing before it or
nothing behind it. -/
def Closed (cs : List Char) : Prop :=
  ∀ name tail, splitFirst? isDash cs = some (name, tail) → name = [] ∨ tail = []

lemma readModifiers_of_closed {cs : List Char} (h : Closed cs) (m : Modifiers) :
    readModifiers m cs = .ok (m, cs) := by
  rw [readModifiers]
  split
  · rfl
  · next name tail hcut =>
      have hempty : (name.isEmpty || tail.isEmpty) = true := by simpa using h name tail hcut
      rw [if_pos hempty]

/-- A modifier, once it is read, is set. -/
lemma add?_ne_empty {m m' : Modifiers} {name : String} (h : m.add? name = some m') : m' ≠ {} := by
  rintro rfl
  simp only [Modifiers.add?] at h
  split at h <;> simp at h

/-- **What is left is closed**, and nothing was read off where no modifier is set. -/
lemma readModifiers_eq_ok {m m' : Modifiers} {cs rest : List Char}
    (h : readModifiers m cs = .ok (m', rest)) (hcs : cs ≠ []) :
    Closed rest ∧ rest ≠ [] ∧ (∃ before, cs = before ++ rest) ∧ (m' = m ∧ rest = cs ∨ m' ≠ {}) := by
  fun_induction readModifiers m cs with
  | case1 m cs hcut =>
      obtain ⟨rfl, rfl⟩ := Prod.mk.inj (Except.ok.inj h)
      refine ⟨fun name tail hsome => ?_, hcs, ⟨[], rfl⟩, Or.inl ⟨rfl, rfl⟩⟩
      rw [hcut] at hsome
      simp at hsome
  | case2 m cs name tail hcut hempty =>
      obtain ⟨rfl, rfl⟩ := Prod.mk.inj (Except.ok.inj h)
      refine ⟨fun name' tail' hsome => ?_, hcs, ⟨[], rfl⟩, Or.inl ⟨rfl, rfl⟩⟩
      obtain ⟨rfl, rfl⟩ := Prod.mk.inj (Option.some.inj (hcut.symm.trans hsome))
      simpa using hempty
  | case3 m cs name tail hcut hempty m'' hadd ih =>
      have htail : tail ≠ [] := by
        rintro rfl
        simp at hempty
      obtain ⟨hclosed, hne, ⟨before, hbefore⟩, hset⟩ := ih h htail
      obtain ⟨dash, -, hcs', -⟩ := eq_append_of_splitFirst? hcut
      refine ⟨hclosed, hne, ⟨name ++ dash :: before, ?_⟩, Or.inr ?_⟩
      · rw [hcs', hbefore, List.append_assoc, List.cons_append]
      · rcases hset with ⟨rfl, -⟩ | hset
        · exact add?_ne_empty hadd
        · exact hset
  | case4 m cs name tail hcut hempty hadd => simp at h

/-- **A name and a dash are read off**, if the name is that of a modifier and something follows. -/
lemma readModifiers_append {name tail : List Char} {m m' : Modifiers}
    (hfree : ∀ c ∈ name, isDash c = false)
    (hname : name ≠ []) (htail : tail ≠ [])
    (hadd : m.add? (String.ofList (name.map lowerAscii)) = some m') :
    readModifiers m (name ++ '-' :: tail) = readModifiers m' tail := by
  have hcut : splitFirst? isDash (name ++ '-' :: tail) = some (name, tail) :=
    splitFirst?_append hfree (by decide) tail
  rw [readModifiers]
  split
  · next hnone => simp [hcut] at hnone
  · next name' tail' hsome =>
      obtain ⟨rfl, rfl⟩ := Prod.mk.inj (Option.some.inj (hcut.symm.trans hsome))
      have hne : (name.isEmpty || tail.isEmpty) = false := by simp [hname, htail]
      simp only [hne, Bool.false_eq_true, if_false, hadd]

/-- The name of a modifier with its dash, if the modifier is set. -/
def mark (set : Bool) (name : List Char) : List Char := if set then name ++ ['-'] else []

lemma toList_modifierTexts (m : Modifiers) :
    (modifierTexts m).toList
      = mark m.control "ctrl".toList ++ (mark m.alt "alt".toList
        ++ (mark m.platform "cmd".toList ++ mark m.shift "shift".toList)) := by
  obtain ⟨shift, control, alt, platform⟩ := m
  cases shift <;> cases control <;> cases alt <;> cases platform <;> decide

lemma readModifiers_mark {name tail : List Char} {m m' : Modifiers} (set : Bool)
    (hfree : name.all fun c => !isDash c) (hname : name ≠ []) (htail : tail ≠ [])
    (hadd : m.add? (String.ofList (name.map lowerAscii)) = some m') :
    readModifiers m (mark set name ++ tail) = readModifiers (if set then m' else m) tail := by
  cases set with
  | false => rfl
  | true =>
      rw [mark, if_pos rfl, List.append_assoc]
      exact readModifiers_append (by simpa using hfree) hname htail hadd

/-- **The modifiers that are written are read off again.** -/
lemma readModifiers_modifierTexts (m : Modifiers) {cs : List Char} (hcs : cs ≠ []) :
    readModifiers {} ((modifierTexts m).toList ++ cs) = readModifiers m cs := by
  have hshift (n : Modifiers) :
      n.add? (String.ofList ("shift".toList.map lowerAscii)) = some { n with shift := true } := rfl
  have hctrl (n : Modifiers) :
      n.add? (String.ofList ("ctrl".toList.map lowerAscii)) = some { n with control := true } := rfl
  have halt (n : Modifiers) :
      n.add? (String.ofList ("alt".toList.map lowerAscii)) = some { n with alt := true } := rfl
  have hcmd (n : Modifiers) :
      n.add? (String.ofList ("cmd".toList.map lowerAscii)) = some { n with platform := true } := rfl
  simp only [toList_modifierTexts, List.append_assoc]
  rw [readModifiers_mark m.control (by decide) (by decide) (by simp [hcs]) (hctrl _),
    readModifiers_mark m.alt (by decide) (by decide) (by simp [hcs]) (halt _),
    readModifiers_mark m.platform (by decide) (by decide) (by simp [hcs]) (hcmd _),
    readModifiers_mark m.shift (by decide) (by decide) hcs (hshift _)]
  congr 1
  obtain ⟨shift, control, alt, platform⟩ := m
  cases shift <;> cases control <;> cases alt <;> cases platform <;> rfl

/-! ## Keys -/

lemma keyOf_map_lowerAscii {cs : List Char} (h : ∀ c, cs ≠ [c]) :
    keyOf (cs.map lowerAscii) = keyOf cs := by
  have hlower : (cs.map lowerAscii).map lowerAscii = cs.map lowerAscii := by
    simp [List.map_map, Function.comp_def]
  have hlong : ∀ c, cs.map lowerAscii ≠ [c] := by
    intro c hc
    obtain ⟨d, rfl, -⟩ := List.map_eq_singleton_iff.1 hc
    exact h d rfl
  rw [keyOf.eq_2 cs h, keyOf.eq_2 _ hlong, hlower]

/-- A text names a key by its one character, by one of the names that are keys of their own, or by
itself. -/
lemma keyOf_cases (cs : List Char) :
    (∃ c, cs = [c] ∧ keyOf cs = .char c) ∨ cs.map lowerAscii = "space".toList ∧ keyOf cs = .char ' '
      ∨ keyOf cs = .escape
      ∨ (∀ c, cs ≠ [c]) ∧ keyOf cs = .named (String.ofList (cs.map lowerAscii)) := by
  by_cases hsingle : ∃ c, cs = [c]
  · obtain ⟨c, rfl⟩ := hsingle
    exact Or.inl ⟨c, rfl, rfl⟩
  · have hlong : ∀ c, cs ≠ [c] := fun c hc => hsingle ⟨c, hc⟩
    rw [keyOf.eq_2 cs hlong]
    split
    · exact Or.inr (Or.inr (Or.inl rfl))
    · exact Or.inr (Or.inr (Or.inl rfl))
    · next hspace =>
        refine Or.inr (Or.inl ⟨?_, rfl⟩)
        rw [← hspace, String.toList_ofList]
    · exact Or.inr (Or.inr (Or.inr ⟨hlong, rfl⟩))

/-! ## Texts of keys -/

/-- A text that can stand behind the text of these modifiers and be read as a key there. -/
structure IsKeyText (m : Modifiers) (cs : List Char) : Prop where
  ne_nil : cs ≠ []
  closed : Closed cs
  last : NoLeadingBlank cs.reverse
  head : m = {} → NoLeadingBlank cs

lemma isDash_lowerAscii (c : Char) : isDash (lowerAscii c) = isDash c := by
  simp only [isDash]
  by_cases hc : c = '-'
  · rw [hc]
    decide
  · have hfolded : lowerAscii c ≠ '-' := fun h => hc (eq_dash_of_lowerAscii h)
    simp [hc, hfolded]

/-- Small letters do not change where a text is cut. -/
lemma IsKeyText.map_lowerAscii {m : Modifiers} {cs : List Char} (h : IsKeyText m cs) :
    IsKeyText m (cs.map lowerAscii) where
  ne_nil := by simpa using h.ne_nil
  closed name tail hcut := by
    rw [splitFirst?_map isDash_lowerAscii] at hcut
    obtain ⟨⟨name', tail'⟩, hcut', heq⟩ := Option.map_eq_some_iff.1 hcut
    obtain ⟨rfl, rfl⟩ := Prod.mk.inj heq
    simpa using h.closed name' tail' hcut'
  last := by
    rw [← List.map_reverse]
    exact h.last.map_lowerAscii
  head hm := (h.head hm).map_lowerAscii

lemma isKeyText_escape (m : Modifiers) : IsKeyText m "escape".toList where
  ne_nil := by decide
  closed name tail hcut := by
    have hnone : splitFirst? isDash "escape".toList = none := by decide
    rw [hnone] at hcut
    simp at hcut
  last := noLeadingBlank_cons (by decide) _
  head _ := noLeadingBlank_cons (by decide) _

/-- **Whatever is read ends with a text of its key.** -/
lemma exists_isKeyText {s : String} {k : KeyPress} (h : parse s = .ok k) :
    ∃ before cs, trimChars s.toList = before ++ cs ∧ IsKeyText k.modifiers cs
      ∧ keyOf cs = k.key := by
  simp only [parse] at h
  split at h
  · simp at h
  · next hne =>
      cases hread : readModifiers {} (trimChars s.toList) with
      | error e => simp [hread, Except.map] at h
      | ok read =>
          obtain ⟨m, rest⟩ := read
          rw [hread] at h
          obtain rfl := Except.ok.inj h
          obtain ⟨hclosed, hrest, ⟨before, hbefore⟩, hset⟩ :=
            readModifiers_eq_ok hread fun hempty => hne (by rw [hempty]; rfl)
          refine ⟨before, rest, hbefore, ⟨hrest, hclosed, ?_, fun hm => ?_⟩, rfl⟩
          · have hlast := noLeadingBlank_reverse_trimChars s.toList
            rw [hbefore, List.reverse_append] at hlast
            exact hlast.of_append
          · rcases hset with ⟨-, hall⟩ | hsome
            · rw [hall]
              exact noLeadingBlank_trimChars s.toList
            · exact absurd hm hsome

lemma noLeadingBlank_modifierTexts (m : Modifiers) : NoLeadingBlank (modifierTexts m).toList := by
  have hmark (set : Bool) (name : List Char) (hname : NoLeadingBlank (name ++ ['-'])) :
      NoLeadingBlank (mark set name) := by
    cases set with
    | false => exact noLeadingBlank_nil
    | true => exact hname
  rw [toList_modifierTexts]
  exact (hmark _ _ (noLeadingBlank_cons (by decide) _)).append
    ((hmark _ _ (noLeadingBlank_cons (by decide) _)).append
      ((hmark _ _ (noLeadingBlank_cons (by decide) _)).append
        (hmark _ _ (noLeadingBlank_cons (by decide) _))))

/-- Only without modifiers is there no text of theirs. -/
lemma eq_empty_of_modifierTexts {m : Modifiers} (h : (modifierTexts m).toList = []) : m = {} := by
  obtain ⟨shift, control, alt, platform⟩ := m
  revert h
  cases shift <;> cases control <;> cases alt <;> cases platform <;> decide

/-- **A text of a key is read behind the text of its modifiers.** -/
lemma parse_modifierTexts_append {m : Modifiers} {key : String} (h : IsKeyText m key.toList) :
    parse (modifierTexts m ++ key) = .ok ⟨keyOf key.toList, m⟩ := by
  have htrim : trimChars ((modifierTexts m).toList ++ key.toList)
      = (modifierTexts m).toList ++ key.toList := by
    refine trimChars_eq_self ?_ ?_
    · by_cases hmarks : (modifierTexts m).toList = []
      · rw [hmarks]
        exact h.head (eq_empty_of_modifierTexts hmarks)
      · exact (noLeadingBlank_modifierTexts m).append_of_ne_nil hmarks _
    · rw [List.reverse_append]
      exact h.last.append_of_ne_nil (by simpa using h.ne_nil) _
  have hne : ((modifierTexts m).toList ++ key.toList).isEmpty = false := by
    rw [List.isEmpty_eq_false_iff]
    exact List.append_ne_nil_of_right_ne_nil _ h.ne_nil
  simp only [parse, String.toList_append, htrim, hne, Bool.false_eq_true, if_false,
    readModifiers_modifierTexts m h.ne_nil, readModifiers_of_closed h.closed]
  rfl

/-- Every key but the blank is written by a text of its own. -/
lemma isKeyText_keyText {m : Modifiers} {cs : List Char} (h : IsKeyText m cs)
    (hkey : keyOf cs ≠ .char ' ') :
    IsKeyText m (keyText (keyOf cs)).toList ∧ keyOf (keyText (keyOf cs)).toList = keyOf cs := by
  rcases keyOf_cases cs with ⟨c, rfl, hc⟩ | ⟨-, hspace⟩ | hescape | ⟨hlong, hnamed⟩
  · have htext : (keyText (keyOf [c])).toList = [c] := by
      rw [hc, keyText, Char.toString, String.toList_singleton]
    rw [htext]
    exact ⟨h, rfl⟩
  · exact absurd hspace hkey
  · rw [hescape]
    exact ⟨isKeyText_escape m, by decide⟩
  · rw [hnamed, keyText, String.toList_ofList, keyOf_map_lowerAscii hlong, hnamed]
    exact ⟨h.map_lowerAscii, rfl⟩

/-! ## Written and read again -/

/-- The name of the blank has a letter that no modifier has. -/
lemma not_mem_modifierTexts (m : Modifiers) : 'e' ∉ (modifierTexts m).toList.map lowerAscii := by
  obtain ⟨shift, control, alt, platform⟩ := m
  cases shift <;> cases control <;> cases alt <;> cases platform <;> decide

/-- Of a text that does not end with a blank only the name of the blank is read as the blank. -/
lemma IsKeyText.map_lowerAscii_of_blank {m : Modifiers} {cs : List Char} (h : IsKeyText m cs)
    (hkey : keyOf cs = .char ' ') : cs.map lowerAscii = "space".toList := by
  rcases keyOf_cases cs with ⟨c, rfl, hc⟩ | ⟨hname, -⟩ | hescape | ⟨-, hnamed⟩
  · rw [hc, Key.char.injEq] at hkey
    exact absurd (h.last c rfl) (by rw [hkey]; decide)
  · exact hname
  · simp [hescape] at hkey
  · simp [hnamed] at hkey

/-- **The blank is not read of its text**, behind any modifiers: the blank at the end is trimmed
away. -/
lemma parse_text_blank_ne (m : Modifiers) : parse (text ⟨.char ' ', m⟩) ≠ .ok ⟨.char ' ', m⟩ := by
  intro h
  obtain ⟨before, cs, htrim, hcs, hkey⟩ := exists_isKeyText h
  have hletter : 'e' ∈ cs.map lowerAscii := by
    rw [hcs.map_lowerAscii_of_blank hkey]
    decide
  obtain ⟨c, hc, hfolded⟩ := List.mem_map.1 hletter
  have hin : c ∈ (text ⟨.char ' ', m⟩).toList :=
    mem_of_mem_trimChars (by rw [htrim]; exact List.mem_append_right before hc)
  rw [text, String.toList_append, List.mem_append] at hin
  rcases hin with hmark | hblank
  · exact not_mem_modifierTexts m (hfolded ▸ List.mem_map_of_mem hmark)
  · obtain rfl : c = ' ' := by simpa [keyText, Char.toString] using hblank
    revert hfolded
    decide

/-- **A key press that was read is read again of its text**, unless its key is the blank. -/
theorem read_again_iff {s : String} {k : KeyPress} (h : parse s = .ok k) :
    parse k.text = .ok k ↔ k.key ≠ .char ' ' := by
  obtain ⟨key, m⟩ := k
  constructor
  · rintro hagain rfl
    exact parse_text_blank_ne m hagain
  · intro hkey
    obtain ⟨-, cs, -, hcs, rfl⟩ := exists_isKeyText h
    obtain ⟨htext, hsame⟩ := isKeyText_keyText hcs hkey
    rw [text, parse_modifierTexts_append htext, hsame]

/-- Modifiers under other names and out of order, and a named key that begins with a dash. -/
theorem read_again_of_dashed_name :
    let k : KeyPress := ⟨.named "-pgup", { control := true, alt := true, shift := true }⟩
    parse " OPTION-shift-Control--PgUp " = .ok k ∧ k.text = "ctrl-alt-shift--pgup"
      ∧ k.key ≠ .char ' ' ∧ parse "ctrl-alt-shift--pgup" = .ok k := by
  intro k
  have hread : parse " OPTION-shift-Control--PgUp " = .ok k := by decide +kernel
  have htext : k.text = "ctrl-alt-shift--pgup" := by decide
  have hkey : k.key ≠ .char ' ' := by decide
  refine ⟨hread, htext, hkey, ?_⟩
  rw [← htext]
  exact (read_again_iff hread).2 hkey

/-- **The blank key is lost**: it is read of its name, but written as itself, and nothing is read of
that. -/
theorem blank_key_is_lost :
    ¬ ∀ (s : String) (k : KeyPress), parse s = .ok k → parse k.text = .ok k := by
  intro hagain
  have hread : parse "space" = .ok ⟨.char ' ', {}⟩ := by decide +kernel
  have hnothing : parse (text ⟨.char ' ', {}⟩) = .error .empty := by decide +kernel
  have hback := hagain "space" _ hread
  rw [hnothing] at hback
  simp at hback

end KeyPress

end PanelKeys
