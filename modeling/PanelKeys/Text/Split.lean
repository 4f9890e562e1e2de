/-!
# Cutting a text

* `splitFirst?` — the text before and after the first separator;
* `splitAll` — the pieces between separators, one more than there are separators;
* `joinWith` — pieces with a separator between them;
* `isInfixOf` — whether one text stands somewhere inside another.
-/

namespace PanelKeys.Text

/-- What stands before and behind the first character that is a separator. -/
def splitFirst? (isSeparator : Char → Bool) : List Char → Option (List Char × List Char)
  | [] => none
  | c :: rest =>
      if isSeparator c then some ([], rest)
      else (splitFirst? isSeparator rest).map fun (before, after) => (c :: before, after)

/-- The pieces between the separators; a text without separators is one piece. -/
def splitAll (separator : Char) : List Char → List (List Char)
  | [] => [[]]
  | c :: rest =>
      if c = separator then [] :: splitAll separator rest
      else
        match splitAll separator rest with
        | [] => [[c]]
        | piece :: pieces => (c :: piece) :: pieces

/-- The pieces in a row, the separator between each two. -/
def joinWith (separator : String) : List String → String
  | [] => ""
  | [piece] => piece
  | piece :: pieces => piece ++ separator ++ joinWith separator pieces

/-- Whether `pattern` stands somewhere in the text. -/
def isInfixOf (pattern : List Char) : List Char → Bool
  | [] => pattern.isEmpty
  | c :: rest => pattern.isPrefixOf (c :: rest) || isInfixOf pattern rest

theorem length_lt_of_splitFirst? {isSeparator : Char → Bool} {cs before after : List Char}
    (h : splitFirst? isSeparator cs = some (before, after)) : after.length < cs.length := by
  induction cs generalizing before with
  | nil => simp [splitFirst?] at h
  | cons c rest ih =>
      simp only [splitFirst?] at h
      split at h
      · simp only [Option.some.injEq, Prod.mk.injEq] at h
        simp [← h.2]
      · obtain ⟨⟨b, a⟩, hsplit, heq⟩ := Option.map_eq_some_iff.1 h
        simp only [Prod.mk.injEq] at heq
        have := ih (heq.2 ▸ hsplit)
        simp only [List.length_cons]
        omega

/-- A cut loses nothing but the separator, and takes the first one. -/
theorem eq_append_of_splitFirst? {isSeparator : Char → Bool} {cs before after : List Char}
    (h : splitFirst? isSeparator cs = some (before, after)) :
    ∃ c, isSeparator c = true ∧ cs = before ++ c :: after
      ∧ ∀ d ∈ before, isSeparator d = false := by
  induction cs generalizing before with
  | nil => simp [splitFirst?] at h
  | cons c rest ih =>
      simp only [splitFirst?] at h
      split at h
      next hc =>
        simp only [Option.some.injEq, Prod.mk.injEq] at h
        exact ⟨c, hc, by simp [← h.1, ← h.2], by simp [← h.1]⟩
      next hc =>
        obtain ⟨⟨b, a⟩, hsplit, heq⟩ := Option.map_eq_some_iff.1 h
        simp only [Prod.mk.injEq] at heq
        obtain ⟨rfl, rfl⟩ := heq
        obtain ⟨d, hd, hcut, hfree⟩ := ih hsplit
        refine ⟨d, hd, by simp [hcut], fun e he => ?_⟩
        rcases List.mem_cons.1 he with rfl | he
        · simpa using hc
        · exact hfree e he

/-- What stands before a separator and contains none is what is cut off. -/
theorem splitFirst?_append {isSeparator : Char → Bool} {before : List Char} {c : Char}
    (hfree : ∀ d ∈ before, isSeparator d = false) (hc : isSeparator c = true) (after : List Char) :
    splitFirst? isSeparator (before ++ c :: after) = some (before, after) := by
  induction before with
  | nil => simp [splitFirst?, hc]
  | cons d rest ih =>
      have hd := hfree d List.mem_cons_self
      have hrest := ih fun e he => hfree e (List.mem_cons_of_mem d he)
      simp [splitFirst?, hd, hrest]

/-- A text whose separators stay what they are is cut at the same place. -/
theorem splitFirst?_map {isSeparator : Char → Bool} {f : Char → Char}
    (hf : ∀ c, isSeparator (f c) = isSeparator c) (cs : List Char) :
    splitFirst? isSeparator (cs.map f)
      = (splitFirst? isSeparator cs).map fun (before, after) => (before.map f, after.map f) := by
  induction cs with
  | nil => rfl
  | cons c rest ih =>
      cases hc : isSeparator c with
      | true => simp [splitFirst?, hf, hc]
      | false =>
          simp only [List.map_cons, splitFirst?, hf, hc, ih, Bool.false_eq_true, if_false]
          cases splitFirst? isSeparator rest <;> rfl

theorem splitAll_ne_nil (separator : Char) (cs : List Char) : splitAll separator cs ≠ [] := by
  cases cs with
  | nil => simp [splitAll]
  | cons c rest =>
      simp only [splitAll]
      repeat' split
      all_goals simp

end PanelKeys.Text
