import EditWaves.Pattern.Program
import Mathlib.Order.Lattice.Nat

/-!
# Programs of patterns are well-formed

An instruction names the instructions that come after it.  All of them are in the program, the first
one included (`Program.WellFormed`): code is built from its end, and what is added names only what is
there (`Expr.grows_emit`).  The one exception is the fork of a loop, which is reserved before the
body and filled in after it (`Expr.grows_loop`).
-/

namespace EditWaves.Pattern

/-- The instructions that an instruction names. -/
def Inst.targets : Inst → List Nat
  | take _ next | check _ next | save _ next => [next]
  | fork first second => [first, second]
  | done => []

/-- All instructions name instructions of the code. -/
def Linked (code : Array Inst) : Prop := ∀ i ∈ code, ∀ next ∈ i.targets, next < code.size

/-- The instructions of a program, the first one included, are in it. -/
structure Program.WellFormed (p : Program) : Prop where
  linked : Linked p.code
  entry_lt : p.entry < p.code.size

namespace Expr

/-- Instructions were added to the code: what comes of it is linked and has an entry. -/
structure Grows (code : Array Inst) (result : Code) : Prop where
  size_le : code.size ≤ result.1.size
  linked : Linked result.1
  entry_lt : result.2 < result.1.size

variable {code : Array Inst} {next : Nat}

theorem Grows.trans {result result' : Code} (h : Grows code result)
    (h' : Grows result.1 result') : Grows code result' :=
  ⟨h.size_le.trans h'.size_le, h'.linked, h'.entry_lt⟩

theorem grows_push {i : Inst} (hcode : Linked code) (hi : ∀ n ∈ i.targets, n < code.size) :
    Grows code (push code i) := by
  refine ⟨?_, ?_, ?_⟩
  · simp [push]
  · intro j hj n hn
    rw [push, Array.size_push]
    rcases Array.mem_push.1 hj with hj | rfl
    · exact Nat.lt_succ_of_lt (hcode j hj n hn)
    · exact Nat.lt_succ_of_lt (hi n hn)
  · simp [push]

theorem grows_refl (hcode : Linked code) (hnext : next < code.size) : Grows code (code, next) :=
  ⟨Nat.le_refl _, hcode, hnext⟩

/-- A fork names the body of a repetition and what follows it. -/
theorem lt_of_mem_forkTo {greedy : Bool} {body size : Nat} (hbody : body < size)
    (hnext : next < size) : ∀ n ∈ (forkTo greedy body next).targets, n < size := by
  cases greedy <;> simp [forkTo, Inst.targets, hbody, hnext]

theorem linked_set! {i : Inst} {index : Nat} (hcode : Linked code)
    (hi : ∀ n ∈ i.targets, n < code.size) : Linked (code.set! index i) := by
  intro j hj n hn
  rw [Array.size_set!]
  rcases Array.mem_or_eq_of_mem_setIfInBounds hj with hj | rfl
  · exact hcode j hj n hn
  · exact hi n hn

/-- A step that is applied a number of times grows the code if each time does. -/
theorem grows_chain {step : Nat → Array Inst → Code} (count : Nat)
    (hstep : ∀ later code', Linked code' → code.size ≤ code'.size → later < code'.size →
      Grows code' (step later code'))
    (hcode : Linked code) (hnext : next < code.size) : Grows code (chain step count next code) := by
  suffices h : ∀ code', Linked code' → code.size ≤ code'.size → ∀ later < code'.size,
      Grows code' (chain step count later code') from h code hcode (Nat.le_refl _) next hnext
  induction count with
  | zero => exact fun code' hcode' _ later hlater => grows_refl hcode' hlater
  | succ count ih =>
    intro code' hcode' hsize later hlater
    have hone := hstep later code' hcode' hsize hlater
    exact hone.trans (ih _ hone.linked (hsize.trans hone.size_le) _ hone.entry_lt)

/-- Code for the loop of a repetition: a fork is reserved, the body is added, and then the fork
names the entry of the body.  The loop can be entered at the body and at the fork. -/
theorem grows_loop {body : Array Inst} {entry : Nat} (greedy : Bool) (hcode : Linked code)
    (hnext : next < code.size) (hbody : Linked (code.push .done) →
      code.size < (code.push .done).size → Grows (code.push .done) (body, entry)) :
    let loop := body.set! code.size (forkTo greedy entry next)
    Grows code (loop, entry) ∧ Grows code (loop, code.size) := by
  intro loop
  have hreserved : Grows code (push code .done) := grows_push hcode (by simp [Inst.targets])
  have hbody := hbody hreserved.linked hreserved.entry_lt
  have hall := hreserved.trans hbody
  have hfork : code.size < body.size := Nat.lt_of_succ_le (by simpa using hbody.size_le)
  have hlinked : Linked loop :=
    linked_set! hall.linked (lt_of_mem_forkTo hall.entry_lt (hnext.trans hfork))
  have hsize : loop.size = body.size := Array.size_set! ..
  refine ⟨⟨?_, hlinked, ?_⟩, ⟨?_, hlinked, ?_⟩⟩ <;> rw [hsize]
  · exact hall.size_le
  · exact hall.entry_lt
  · exact hall.size_le
  · exact hfork

/-- The instructions of an expression name each other and what they are followed by. -/
theorem grows_emit (e : Expr) (hcode : Linked code) (hnext : next < code.size) :
    Grows code (emit next code e) := by
  refine emit.induct
    (fun next code e => Linked code → next < code.size → Grows code (emit next code e))
    (fun next code branches =>
      Linked code → next < code.size → Grows code (emitBranches next code branches))
    (fun next code parts => Linked code → next < code.size → Grows code (emitAll next code parts))
    ?empty ?set ?look ?capture ?concat ?alt ?bounded ?star ?starOfEmpty ?plus
    ?noBranch ?oneBranch ?branches ?noPart ?parts next code e hcode hnext
  case empty => exact fun next code => grows_refl
  case set => exact fun next code s hcode hnext => grows_push hcode (by simpa [Inst.targets])
  case look => exact fun next code l hcode hnext => grows_push hcode (by simpa [Inst.targets])
  case capture =>
    intro next code index name body code₁ close hclose code₂ entry hentry ih hcode hnext
    have hpush : Grows code (code₁, close) :=
      hclose ▸ grows_push hcode (by simpa [Inst.targets])
    have hbody : Grows code₁ (code₂, entry) := hentry ▸ ih hpush.linked hpush.entry_lt
    have hopen := grows_push (i := .save (2 * index) entry) hbody.linked
      (by simpa [Inst.targets] using hbody.entry_lt)
    simp only [emit, hclose, hentry]
    exact (hpush.trans hbody).trans hopen
  case concat =>
    intro next code parts ih hcode hnext
    rw [emit]
    exact ih hcode hnext
  case alt =>
    intro next code branches ih hcode hnext
    rw [emit]
    exact ih hcode hnext
  case bounded =>
    intro next code min max greedy body code₁ entry hoptional ih hcode hnext
    have hoptionals : Grows code (code₁, entry) := by
      rw [← hoptional]
      refine grows_chain _ (fun later code' hcode' hsize hlater => ?_) hcode hnext
      have hbody := ih later code' hcode' hlater
      exact hbody.trans (grows_push hbody.linked
        (lt_of_mem_forkTo hbody.entry_lt (hnext.trans_le (hsize.trans hbody.size_le))))
    simp only [emit, hoptional]
    exact hoptionals.trans (grows_chain min (fun later code' hcode' _ => ih later code' hcode')
      hoptionals.linked hoptionals.entry_lt)
  case star =>
    intro next code greedy body code₁ fork hpush code₂ entry hentry hconsumes ih hcode hnext
    obtain ⟨rfl, rfl⟩ := Prod.mk.inj hpush
    simp only [emit, push, hentry, hconsumes, if_true]
    exact (grows_loop greedy hcode hnext (hentry ▸ ih)).2
  case starOfEmpty =>
    intro next code greedy body code₁ fork hpush code₂ entry hentry hconsumes ih hcode hnext
    obtain ⟨rfl, rfl⟩ := Prod.mk.inj hpush
    have hloop := (grows_loop greedy hcode hnext (hentry ▸ ih)).1
    simp only [emit, push, hentry, hconsumes]
    exact hloop.trans (grows_push hloop.linked
      (lt_of_mem_forkTo hloop.entry_lt (hnext.trans_le hloop.size_le)))
  case plus =>
    intro next code min greedy body code₁ fork hpush code₂ entry hentry ih ihs hcode hnext
    obtain ⟨rfl, rfl⟩ := Prod.mk.inj hpush
    have hloop := (grows_loop greedy hcode hnext (hentry ▸ ih)).1
    simp only [emit, push, hentry]
    exact hloop.trans (grows_chain min (fun later code' hcode' _ => ihs later code' hcode')
      hloop.linked hloop.entry_lt)
  case noBranch =>
    intro next code hcode hnext
    rw [emitBranches]
    exact grows_push hcode (by simpa [Inst.targets])
  case oneBranch =>
    intro next code e ih hcode hnext
    rw [emitBranches]
    exact ih hcode hnext
  case branches =>
    intro next code e rest hrest code₁ others hothers code₂ entry hentry ihrest ih hcode hnext
    have hrests : Grows code (code₁, others) := hothers ▸ ihrest hcode hnext
    have hbranch : Grows code₁ (code₂, entry) :=
      hentry ▸ ih hrests.linked (hnext.trans_le hrests.size_le)
    have hfork : ∀ n ∈ (Inst.fork entry others).targets, n < code₂.size := by
      simpa [Inst.targets] using ⟨hbranch.entry_lt, hrests.entry_lt.trans_le hbranch.size_le⟩
    rw [emitBranches]
    · simp only [hothers, hentry]
      exact (hrests.trans hbranch).trans (grows_push hbranch.linked hfork)
    · exact hrest
  case noPart =>
    intro next code hcode hnext
    rw [emitAll]
    exact grows_refl hcode hnext
  case parts =>
    intro next code e rest code₁ later hlater ihrest ih hcode hnext
    have hall : Grows code (code₁, later) := hlater ▸ ihrest hcode hnext
    simp only [emitAll, hlater]
    exact hall.trans (ih hall.linked hall.entry_lt)

end Expr

/-- The program of a pattern is well-formed. -/
theorem wellFormed_of_compile? {pattern : String} {p : Program}
    (h : compile? pattern = some p) : p.WellFormed := by
  obtain ⟨ast, -, h⟩ := Option.bind_eq_some_iff.1 h
  obtain ⟨e, -, h⟩ := Option.bind_eq_some_iff.1 h
  rw [Expr.program?] at h
  split at h
  · cases h
  · obtain rfl := Option.some.inj h
    have hgrows : Expr.Grows #[.done] (Expr.emit 0 #[.done] e) :=
      Expr.grows_emit e (by simp [Linked, Inst.targets]) (by simp)
    exact ⟨hgrows.linked, hgrows.entry_lt⟩

end EditWaves.Pattern
