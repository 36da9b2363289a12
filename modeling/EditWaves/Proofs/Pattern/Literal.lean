import EditWaves.Proofs.Pattern.Replacement

/-!
# Templates for a literal text

A text in which every dollar is doubled is a template for the text itself.  The scanner meets the
dollars of a run two by two, so no dollar is left over that could begin a reference together with
what follows the run.

* `Substitutes.escaped_append`: in front of any template, a text with its dollars doubled stands
  for the text, and what follows is read as it is read alone.
* `replaced_replaceAll_iff`: the text after a replacement, by the matches and what replaces them.
* `expand_escapeDollars`: an escaped text for every match, and in the replacement of all matches.
-/

namespace EditWaves.Pattern

/-- Characters with every dollar among them doubled. -/
def escaped (cs : List Char) : List Char :=
  cs.flatMap fun d => if d = '$' then ['$', '$'] else [d]

/-- A text with every dollar doubled. -/
def escapeDollars (text : String) : String := String.ofList (escaped text.toList)

theorem escaped_cons_dollar (cs : List Char) : escaped ('$' :: cs) = '$' :: '$' :: escaped cs := rfl

theorem escaped_cons_of_ne {d : Char} (hd : d ≠ '$') (cs : List Char) :
    escaped (d :: cs) = d :: escaped cs := by
  rw [escaped, List.flatMap_cons, if_neg hd]
  rfl

/-- Doubled dollars are read in pairs, whatever follows them. -/
theorem Substitutes.escaped_append {c : Context} {rest more : List Char}
    (h : Substitutes c rest more) (cs : List Char) :
    Substitutes c (escaped cs ++ rest) (cs ++ more) := by
  induction cs with
  | nil => exact h
  | cons d cs ih =>
    by_cases hd : d = '$'
    · rw [hd, escaped_cons_dollar]
      have hpair : Substitutes c ('$' :: ['$'] ++ (escaped cs ++ rest))
          (['$'] ++ (cs ++ more)) := .reference .dollar ih
      exact hpair
    · rw [escaped_cons_of_ne hd]
      exact .plain hd ih

/-- The text after a replacement is the one text that comes of putting the expanded template in
place of each match. -/
theorem replaced_replaceAll_iff (p : Program) (template contents : String) (after : List Char) :
    Replaced (fun m => (expand ⟨contents.toList, m, p.names⟩ template).toList) 0
        (p.findAll contents.toList.toArray) contents.toList after ↔
      after = (p.replaceAll template contents).toList := by
  have hsuccessive : Successive contents.toList.length 0 (p.findAll contents.toList.toArray) :=
    (p.foundFrom_findAll contents.toList.toArray).successive (Nat.zero_le _)
  have hresult := replaced_replaceMatches
    (fun m => (expand ⟨contents.toList, m, p.names⟩ template).toList) hsuccessive
  rw [List.drop_zero] at hresult
  rw [Program.replaceAll, String.toList_ofList]
  exact ⟨fun h => h.unique hresult, fun h => h ▸ hresult⟩

/-- A text with its dollars doubled is a template for the text: it is expanded to the text for
every match in every text, whatever the groups and their names, and a replacement with it puts
the text in place of each match and changes nothing else. -/
theorem expand_escapeDollars (t : String) :
    (∀ c : Context, expand c (escapeDollars t) = t) ∧
      ∀ search p, compile? search = some p → ∀ contents range,
        ∃ result, Mutator.replace.edit contents (.replace range search (escapeDollars t))
            = .ok result ∧
          ∀ after, Replaced (fun _ => t.toList) 0 (p.findAll contents.toList.toArray)
            contents.toList after ↔ after = result.toList := by
  have hexpand : ∀ c : Context, expand c (escapeDollars t) = t := by
    intro c
    have h : Substitutes c (escapeDollars t).toList t.toList := by
      have hescaped := Substitutes.escaped_append (c := c) .nil t.toList
      rwa [List.append_nil, List.append_nil, ← String.toList_ofList (l := escaped t.toList)]
        at hescaped
    rw [expand_of_substitutes h, String.ofList_toList]
  refine ⟨hexpand, ?_⟩
  intro search p hp contents range
  refine ⟨p.replaceAll (escapeDollars t) contents, ?_, ?_⟩
  · rw [Mutator.edit, Mutator.replaceText, hp]
  · intro after
    rw [← replaced_replaceAll_iff]
    simp only [hexpand]

/-- Dollars before a digit, before another dollar and before the mark of the match, put in place
of a group. -/
theorem expand_escapeDollars_group :
    let p : Program := ⟨#[.done, .save 3 0, .take (.single 'a') 1, .save 2 2], 3, 1, []⟩
    compile? "(a)" = some p ∧ p.findAll "bac".toList.toArray = [⟨1, 2, [some (1, 2)]⟩] ∧
      escapeDollars "$1$$&" = "$$1$$$$&" ∧
      Mutator.replace.edit "bac" (.replace (.point 0) "(a)" "$$1$$$$&") = .ok "b$1$$&c" := by
  intro p
  have hp : compile? "(a)" = some p := rfl
  have hms : p.findAll "bac".toList.toArray = [⟨1, 2, [some (1, 2)]⟩] := by
    have ha : (Text.CharSet.single 'a').contains 'a' = true := rfl
    have hb : (Text.CharSet.single 'a').contains 'b' = false := rfl
    have hc : (Text.CharSet.single 'a').contains 'c' = false := rfl
    have hgroup : Program.groupSpan [(3, 2), (2, 1)] 1 = some (1, 2) := rfl
    simp [Program.findAll, Program.findAllFrom, Program.findNext, Program.find?, Program.search,
      Program.matchAt, Program.fuelFor, Program.run, Program.toMatch, p, ha, hb, hc, hgroup]
  have hescape : escapeDollars "$1$$&" = "$$1$$$$&" := rfl
  obtain ⟨result, hresult, hexact⟩ :=
    (expand_escapeDollars "$1$$&").2 "(a)" p hp "bac" (.point 0)
  have htext : "b$1$$&c".toList = result.toList := by
    rw [← hexact, hms]
    exact .cons ['b'] ['a'] rfl rfl (.nil ['c'])
  rw [← hescape, hresult, String.toList_inj.1 htext]
  exact ⟨hp, hms, hescape, rfl⟩

end EditWaves.Pattern
