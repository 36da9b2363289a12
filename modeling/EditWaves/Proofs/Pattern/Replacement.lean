import EditWaves.Mutator
import EditWaves.Proofs.Pattern.Search
import EditWaves.Proofs.Pattern.Substitution
import EditWaves.Proofs.Text.Splice

/-!
# Replacement in a text

Replacing the matches of a pattern changes the text in these places and nowhere else: `Replaced`
says it as two texts that are cut alike, into the same gaps around what a match covers in the one
and what replaces it in the other.

* `replaced_replaceMatches`: replacement puts something in place of each of some matches that
  follow one another.
* `Replaced.unique`: and nothing else is that.
* `replaceMatches_slice`, `expand_whole`: matches in place of themselves, and the template for that.
* `replace_matches`: all matches of a pattern in the contents of a file.
-/

namespace EditWaves.Pattern

open EditWaves.Text

/-- A text before and after the replacement of matches, both from the position `start` of the first
on.  Between the matches both are the same, and what a match covers stands at its place. -/
inductive Replaced (replacement : Match → List Char) :
    Nat → List Match → List Char → List Char → Prop where
  | nil {start : Nat} (tail : List Char) : Replaced replacement start [] tail tail
  | cons {start : Nat} {m : Match} {rest : List Match} {before after : List Char}
      (gap covered : List Char) (hstart : m.start = start + gap.length)
      (hstop : m.stop = m.start + covered.length)
      (hrest : Replaced replacement m.stop rest before after) :
      Replaced replacement start (m :: rest) (gap ++ covered ++ before)
        (gap ++ replacement m ++ after)

variable {replacement : Match → List Char} {text : List Char} {start : Nat} {ms : List Match}

/-! ## Replacing some matches -/

/-- Matches that follow one another are replaced in place. -/
theorem replaced_replaceMatches (replacement : Match → List Char)
    (h : Successive text.length start ms) :
    Replaced replacement start ms (text.drop start) (replaceMatches text replacement start ms) := by
  induction h with
  | nil => exact .nil _
  | @cons start m rest hstart hstop hrest ih =>
    have hsize := hrest.start_le
    rw [replaceMatches, ← slice_append_drop hstart, ← slice_append_drop hstop,
      ← List.append_assoc]
    exact .cons _ _ (length_slice hstart (by omega)) (length_slice hstop hsize) ih

/-- Matches that are put in place of themselves leave the text as it is. -/
theorem replaceMatches_slice (h : Successive text.length start ms) :
    replaceMatches text (fun m => slice text m.start m.stop) start ms = text.drop start := by
  induction h with
  | nil => rfl
  | cons hstart hstop _ ih =>
    rw [replaceMatches, ih, List.append_assoc, slice_append_drop hstop, slice_append_drop hstart]

/-- The matches and what replaces them determine the text after replacement. -/
theorem Replaced.unique {before after after' : List Char}
    (h : Replaced replacement start ms before after)
    (h' : Replaced replacement start ms before after') : after = after' := by
  induction h generalizing after' with
  | nil tail =>
    cases h'
    rfl
  | @cons start m rest before after gap covered hstart hstop hrest ih =>
    generalize hwhole : gap ++ covered ++ before = whole at h'
    obtain _ | @⟨_, _, _, before', after'', gap', covered', hstart', hstop', hrest'⟩ := h'
    have hgaps : gap.length = gap'.length := by omega
    have hcovers : covered.length = covered'.length := by omega
    rw [List.append_assoc, List.append_assoc] at hwhole
    obtain ⟨hgap, hcut⟩ := List.append_inj hwhole hgaps
    obtain ⟨-, hbefore⟩ := List.append_inj hcut hcovers
    subst hbefore
    rw [hgap, ih hrest']

/-! ## Templates -/

/-- The template of a match itself. -/
theorem expand_whole (c : Context) : expand c "$&" = String.ofList c.whole := by
  have h : Substitutes c "$&".toList (c.whole ++ []) := .reference .whole .nil
  rw [expand_of_substitutes h, List.append_nil]

/-! ## Replacing all matches -/

/-- A replacement with a pattern that is accepted replaces successive matches of it, outside which
none begins.  Each is replaced by the template expanded for it in the original contents, and what is
outside the matches stays: there is one text that comes of this, and it is the result, whatever the
range.  So contents without a match stay as they are, and so do contents in which each match is
replaced by itself. -/
theorem replace_matches {search : String} {p : Program} (hp : compile? search = some p)
    (contents template : String) (range : EditRange) :
    let text := contents.toList
    let ms := p.findAll text.toArray
    FoundFrom p text.toArray 0 none ms ∧ (∀ m ∈ ms, Matches p text.toArray m) ∧
      (∀ m, Matches p text.toArray m →
        ∃ found ∈ ms, found.start ≤ m.start ∧ m.start ≤ found.stop) ∧
      ∃ result, Mutator.replace.edit contents (.replace range search template) = .ok result ∧
        (∀ after, Replaced (fun m => (expand ⟨text, m, p.names⟩ template).toList) 0 ms text after ↔
          after = result.toList) ∧
        ((∀ m, ¬Matches p text.toArray m) → result = contents) ∧
        (template = "$&" → result = contents) := by
  intro text ms
  have hfound : FoundFrom p text.toArray 0 none ms := p.foundFrom_findAll text.toArray
  have hsuccessive : Successive text.length 0 ms := hfound.successive (Nat.zero_le _)
  have hcovers := fun m (hm : Matches p text.toArray m) =>
    hfound.covers (wellFormed_of_compile? hp) hm (Nat.zero_le _) (by simp)
  have hchars : (p.replaceAll template contents).toList
      = replaceMatches text (fun m => (expand ⟨text, m, p.names⟩ template).toList) 0 ms := by
    rw [Program.replaceAll, String.toList_ofList]
  have hresult := replaced_replaceMatches
    (fun m => (expand ⟨text, m, p.names⟩ template).toList) hsuccessive
  rw [← hchars, List.drop_zero] at hresult
  refine ⟨hfound, hfound.matches, hcovers, p.replaceAll template contents, ?_, ?_, ?_, ?_⟩
  · rw [Mutator.edit, Mutator.replaceText, hp]
  · exact fun after => ⟨fun h => h.unique hresult, fun h => h ▸ hresult⟩
  · intro hnone
    have hms : ms = [] := List.eq_nil_iff_forall_not_mem.2 fun m hm => hnone m (hfound.matches m hm)
    rw [hms] at hresult
    exact String.toList_inj.1 (hresult.unique (.nil text))
  · rintro rfl
    have hself : (fun m => (expand ⟨text, m, p.names⟩ "$&").toList)
        = fun m => slice text m.start m.stop := by
      funext m
      rw [expand_whole, String.toList_ofList, Context.whole]
    rw [hself, replaceMatches_slice hsuccessive, List.drop_zero] at hchars
    exact String.toList_inj.1 hchars

/-- Two empty matches and one that is not, each replaced by the text before it in the original. -/
theorem replace_matches_optional :
    let p : Program := ⟨#[.done, .take (.single 'b') 0, .fork 1 0], 2, 0, []⟩
    compile? "b?" = some p ∧
      p.findAll "abc".toList.toArray = [⟨0, 0, []⟩, ⟨1, 2, []⟩, ⟨3, 3, []⟩] ∧
      Mutator.replace.edit "abc" (.replace (.point 1) "b?" "<$`>") = .ok "<>a<a>c<abc>" ∧
      Mutator.replace.edit "abc" (.replace (.point 1) "b?" "$&") = .ok "abc" := by
  intro p
  have hp : compile? "b?" = some p := rfl
  have hms : p.findAll "abc".toList.toArray = [⟨0, 0, []⟩, ⟨1, 2, []⟩, ⟨3, 3, []⟩] := by
    have ha : (Text.CharSet.single 'b').contains 'a' = false := rfl
    have hb : (Text.CharSet.single 'b').contains 'b' = true := rfl
    have hc : (Text.CharSet.single 'b').contains 'c' = false := rfl
    simp [Program.findAll, Program.findAllFrom, Program.findNext, Program.find?, Program.search,
      Program.matchAt, Program.fuelFor, Program.run, Program.toMatch, p, ha, hb, hc]
  have hexpand : ∀ m, (expand ⟨"abc".toList, m, []⟩ "<$`>").toList
      = '<' :: "abc".toList.take m.start ++ ['>'] := by
    intro m
    have h : Substitutes ⟨"abc".toList, m, []⟩ "<$`>".toList
        ('<' :: ("abc".toList.take m.start ++ ['>'])) :=
      .plain (by decide) (.reference .before (.plain (by decide) .nil))
    rw [expand_of_substitutes h, String.toList_ofList]
    rfl
  obtain ⟨-, -, -, result, hresult, hexact, -⟩ := replace_matches hp "abc" "<$`>" (.point 1)
  obtain ⟨-, -, -, same, hsame, -, -, hwhole⟩ := replace_matches hp "abc" "$&" (.point 1)
  have htext : "<>a<a>c<abc>".toList = result.toList := by
    rw [← hexact, hms]
    simp only [p, hexpand]
    exact .cons [] [] rfl rfl (.cons ['a'] ['b'] rfl rfl (.cons ['c'] [] rfl rfl (.nil [])))
  rw [hresult, hsame, hwhole rfl, String.toList_inj.1 htext]
  exact ⟨hp, hms, rfl, rfl⟩

end EditWaves.Pattern
