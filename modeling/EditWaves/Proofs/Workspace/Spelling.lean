import EditWaves.Proofs.Mutation.Spelling
import EditWaves.Proofs.Workspace.Pipeline

/-!
# Respelled mutations applied to a file

Mutators that look at a range only through its start and its effective end do with a respelled
mutation what they do with the mutation, and so does everything that hands mutations to them.
What is noted on the way is noted about the respelled mutations (`Entry.canonical`), which the
trace does not show.

* `Mutator.edit_canonical`: the built-in mutators are of this kind.
* `dispatch_canonical`: a dispatch, by the cases of its recursion.
* `mutateAll_canonical`, `dropNotes_canonical`: the parts of a pipeline.
* `Workspace.applyFile_respelled`: the pipeline of a file.
* `applyFile_canonical`: a list of mutations and its respelling.
-/

namespace EditWaves

/-! ## Logs -/

/-- An entry about the respelled mutation. -/
def Entry.canonical : Entry → Entry
  | .applied file m => .applied file m.canonical
  | .unknown m => .unknown m.canonical
  | .dropped m keptStart => .dropped m.canonical keptStart
  | e => e

/-- A log about the respelled mutations. -/
def Log.canonical (log : Log) : Log := log.map Entry.canonical

@[simp] theorem Log.canonical_append (l₁ l₂ : Log) :
    Log.canonical (l₁ ++ l₂) = Log.canonical l₁ ++ Log.canonical l₂ :=
  List.map_append

theorem Entry.isNote_canonical (e : Entry) : e.canonical.isNote = e.isNote := by
  cases e <;> rfl

/-- A listener is told of the same events, about the respelled mutations. -/
theorem Log.events_canonical (log : Log) :
    Log.events (Log.canonical log) = Log.canonical (Log.events log) := by
  rw [Log.canonical, Log.events, List.filter_map, Log.events, Log.canonical]
  simp only [Function.comp_def, Entry.isNote_canonical]

theorem Stats.step_canonical (s : Stats) (e : Entry) : s.step e.canonical = s.step e := by
  cases e <;> rfl

theorem Entry.traceLine?_canonical (stats : Stats) (e : Entry) :
    e.canonical.traceLine? stats = e.traceLine? stats := by
  cases e <;> simp [Entry.canonical, Entry.traceLine?]

/-- The trace does not show how ranges are spelled. -/
theorem Log.traceFrom_canonical (stats : Stats) (log : Log) :
    Log.traceFrom stats (Log.canonical log) = Log.traceFrom stats log := by
  induction log generalizing stats with
  | nil => rfl
  | cons e rest ih =>
    rw [Log.canonical, List.map_cons, Log.traceFrom, Log.traceFrom, Entry.traceLine?_canonical,
      Stats.step_canonical]
    exact congrArg _ (ih (stats.step e))

/-! ## Mutators -/

namespace Mutator

theorem refuse_canonical (expected : String) (m : Mutation) :
    refuse expected m.canonical = refuse expected m := by
  rw [refuse, Mutation.tag_canonical, refuse]

/-- What a built-in mutator edits or refuses it does so however the ranges are spelled. -/
theorem edit_canonical {mutator : Mutator} (h : mutator.tag?.isSome = true) (contents : String)
    (m : Mutation) : mutator.edit contents m.canonical = mutator.edit contents m := by
  cases mutator with
  | plugin p => cases h
  | multiple => exact refuse_canonical Tag.multiple m
  | delete | insert | replace | swap =>
    cases m <;> simp [Mutation.canonical, edit, refuse, Mutation.tag]

end Mutator

namespace Lookup

/-- All mutators that are found are built in. -/
def FindsBuiltins (find : Lookup) : Prop :=
  ∀ tag mutator, find tag = some mutator → mutator.tag?.isSome = true

theorem findsBuiltins {find : Lookup} (h : find.find = Resolver.builtins.lookup.find) :
    find.FindsBuiltins := by
  intro tag mutator hfind
  have hget : Searcher.builtins.get? tag = some mutator := by
    rw [h, Resolver.lookup_eq] at hfind
    -- There is nothing in the cache and one searcher.
    change (none <|> List.findSome? (fun s : Searcher => s.find? tag)
      [.registry Searcher.builtins]) = some mutator at hfind
    simpa [Searcher.find?] using hfind
  rw [Searcher.tag?_of_builtins hget]
  rfl

end Lookup

/-! ## Dispatches -/

/-- An outcome with a log about the respelled mutations. -/
def Dispatched.canonical (d : Dispatched) : Dispatched := { d with log := Log.canonical d.log }

namespace Resolver

variable {r : Resolver}

/-- Nothing is noted about mutations when a tag is looked up. -/
theorem canonical_resolve (r : Resolver) (tag : String) :
    Log.canonical (r.resolve tag).2.2 = (r.resolve tag).2.2 := by
  cases hcache : r.cache.get? tag with
  | some mutator =>
    rw [resolve_cached hcache]
    rfl
  | none =>
    rcases hsearch : searchShelves tag r.shelves with ⟨found, shelves⟩
    cases found with
    | none => rw [resolve_missing hcache hsearch]; rfl
    | some mutator => rw [resolve_found hcache hsearch]; rfl

theorem dispatch_canonical (hr : r.lookup.FindsBuiltins) (contents : String) (m : Mutation) :
    r.dispatch contents m.canonical = (r.dispatch contents m).canonical := by
  have hagrees := (agrees_withPlugins (performsAs_perform r.depth)).2.2
  rw [dispatch]
  generalize r.depth = depth at hagrees ⊢
  -- One case for each way through the three functions.
  refine dispatchWith.induct (perform depth)
    (fun r mutator contents m => r.lookup.FindsBuiltins → mutator.tag?.isSome = true →
      r.mutateWith (perform depth) mutator contents m.canonical
        = (r.mutateWith (perform depth) mutator contents m).canonical)
    (fun r contents ms => r.lookup.FindsBuiltins →
      r.dispatchAllWith (perform depth) contents (ms.map Mutation.canonical)
        = (r.dispatchAllWith (perform depth) contents ms).canonical)
    (fun r contents m => r.lookup.FindsBuiltins →
      r.dispatchWith (perform depth) contents m.canonical
        = (r.dispatchWith (perform depth) contents m).canonical)
    ?multiple ?plugin ?simple ?nil ?consOk ?consError ?found ?missing r contents m hr
  case multiple =>
    intro r contents range children h hr _
    rw [Mutation.canonical, mutateWith, mutateWith, Mutation.canonicalAll_eq_map,
      Mutation.lastToFirst_canonical]
    exact h hr
  case plugin =>
    intro r contents p m hr hbuiltin
    cases hbuiltin
  case simple =>
    intro r contents mutator m hmultiple hplugin hr hbuiltin
    have hmultiple' : ∀ range children, mutator = .multiple →
        m.canonical = .multiple range children → False := by
      intro range children hmutator hm
      cases m <;> cases hm
      exact hmultiple _ _ hmutator rfl
    rw [mutateWith.eq_3 _ r mutator contents m hplugin hmultiple,
      mutateWith.eq_3 _ r mutator contents _ hplugin hmultiple',
      Mutator.edit_canonical hbuiltin contents m]
    rfl
  case nil =>
    intro r contents _
    rw [List.map_nil, dispatchAllWith]
    rfl
  case consOk =>
    intro r contents m rest d text hok hm hrest hr
    change (r.dispatchWith (perform depth) contents m).result = .ok text at hok
    have hd : d.resolver.lookup.FindsBuiltins := (hagrees r contents m).lookup ▸ hr
    rw [List.map_cons, dispatchAllWith, dispatchAllWith, hm hr]
    simp only [Dispatched.canonical, hok, Log.canonical_append]
    rw [hrest hd]
    rfl
  case consError =>
    intro r contents m rest d fault herror hm hr
    change (r.dispatchWith (perform depth) contents m).result = .error fault at herror
    rw [List.map_cons, dispatchAllWith, dispatchAllWith, hm hr]
    simp only [Dispatched.canonical, herror]
  case found =>
    intro r contents m mutator r' log hfound h hr
    have hlog : Log.canonical log = log := by
      simpa only [hfound] using r.canonical_resolve m.tag
    have hlookup : r'.lookup = r.lookup := by
      simpa only [hfound] using r.lookup_resolve m.tag
    have hmutator : r.lookup m.tag = some mutator := congrArg Prod.fst hfound
    rw [dispatchWith, dispatchWith, Mutation.tag_canonical, hfound]
    simp only [h (hlookup ▸ hr) (hr _ _ hmutator), Dispatched.canonical, Log.canonical_append, hlog]
  case missing =>
    intro r contents m r' log hmissing hr
    have hlog : Log.canonical log = log := by
      simpa only [hmissing] using r.canonical_resolve m.tag
    rw [dispatchWith, dispatchWith, Mutation.tag_canonical, hmissing]
    simp only [Dispatched.canonical, Log.canonical_append, hlog]
    rfl

end Resolver

/-! ## The pipeline of a file -/

theorem mutateAll_canonical {r : Resolver} (hr : r.lookup.FindsBuiltins)
    (file contents : String) (ms : List Mutation) :
    mutateAll r file contents (ms.map Mutation.canonical)
      = (mutateAll r file contents ms).canonical := by
  induction ms generalizing r contents with
  | nil => rfl
  | cons m rest ih =>
    rw [List.map_cons, mutateAll, mutateAll, Resolver.dispatch_canonical hr]
    cases hm : (r.dispatch contents m).result with
    | ok text =>
      have hlookup : (r.dispatch contents m).resolver.lookup.FindsBuiltins :=
        (r.agrees_dispatch contents m).lookup ▸ hr
      simp only [Dispatched.canonical, hm, ih hlookup, Log.canonical_append]
      rfl
    | error fault => simp only [Dispatched.canonical, hm]

/-- The respelled mutations overlap where the mutations do. -/
theorem dropNotes_canonical (ms : List Mutation) :
    dropNotes (ms.map Mutation.canonical) = Log.canonical (dropNotes ms) := by
  rw [dropNotes, Order.drops_map Mutation.keepsPlaces_canonical, List.map_map, dropNotes,
    Log.canonical, List.map_map]
  rfl

namespace Workspace

variable {φ : Type}

theorem mutateContents_canonical {w : Workspace φ} (hr : w.resolver.lookup.FindsBuiltins)
    (name contents : String) (ms : List Mutation) :
    w.mutateContents name contents (ms.map Mutation.canonical)
      = (w.mutateContents name contents ms).map id (Prod.map id Log.canonical) := by
  have hsweep : Mutation.sweep (ms.map Mutation.canonical)
      = (Mutation.sweep ms).map Mutation.canonical :=
    Order.sweep_map Mutation.keepsPlaces_canonical ms
  rw [mutateContents, hsweep, mutateAll_canonical hr]
  rfl

/-- Applied to a file, respelled mutations do what the mutations do, and what is logged about it is
the same about the respelled mutations. -/
theorem applyFile_respelled [FileAccess φ] {w : Workspace φ}
    (hr : w.resolver.lookup.FindsBuiltins) (name : String) (ms : List Mutation) :
    w.applyFile name (ms.map Mutation.canonical)
      = (w.applyFile name ms).map id (Prod.map id Log.canonical) := by
  rcases hread : FileAccess.read w.files name with ⟨result, files⟩
  cases result with
  | error e => simp only [applyFile, readContents, hread, dropNotes_canonical, Prod.map_apply, id]
  | ok contents =>
    have hmutate := mutateContents_canonical (w := (w.readContents name).2) hr name contents ms
    simp only [readContents, hread] at hmutate
    simp only [applyFile, readContents, hread, dropNotes_canonical, hmutate]
    rcases mutateContents _ name contents ms with ⟨_ | text, after, log⟩ <;>
      simp only [Prod.map_apply, id, Log.canonical_append]

end Workspace

/-- Ranges are observed only through their begin and their effective end: a list of mutations and
the list with all ranges spelled with their effective ends are ordered alike, combined into one
range, and applied to a file with one outcome and the same events. -/
theorem applyFile_canonical (ms : List Mutation) :
    Order.OrderedAlike ms (ms.map Mutation.canonical) ∧
      (Mutation.combine (ms.map Mutation.canonical)).range = (Mutation.combine ms).range ∧
      ∀ {φ : Type} [FileAccess φ] (w : Workspace φ) (name : String),
        w.resolver.lookup.find = Resolver.builtins.lookup.find →
        (w.applyFile name (ms.map Mutation.canonical)).1 = (w.applyFile name ms).1 ∧
          (w.applyFile name (ms.map Mutation.canonical)).2.1 = (w.applyFile name ms).2.1 ∧
          Log.events (w.applyFile name (ms.map Mutation.canonical)).2.2
            = Log.canonical (Log.events (w.applyFile name ms).2.2) ∧
          Log.trace (w.applyFile name (ms.map Mutation.canonical)).2.2
            = Log.trace (w.applyFile name ms).2.2 := by
  refine ⟨Mutation.keepsPlaces_canonical.orderedAlike ms, Mutation.range_combine_canonical ms, ?_⟩
  intro φ _ w name hbuiltins
  have hr : w.resolver.lookup.FindsBuiltins := Lookup.findsBuiltins hbuiltins
  rw [Workspace.applyFile_respelled hr]
  exact ⟨rfl, rfl, Log.events_canonical _, Log.traceFrom_canonical .zero _⟩

/-- Ranges without an end and with an end before their begin, two of them in a `multiple`. -/
theorem applyFile_canonical_mixed :
    let ms : List Mutation :=
      [.multiple ⟨7, some 4⟩ [.insert ⟨8, some 3⟩ "-", .delete ⟨9, some 11⟩],
        .delete ⟨2, none⟩, .swap ⟨2, some 1⟩ "e"]
    let respelled : List Mutation :=
      [.multiple ⟨7, some 7⟩ [.insert ⟨8, some 8⟩ "-", .delete ⟨9, some 11⟩],
        .delete ⟨2, some 2⟩, .swap ⟨2, some 2⟩ "e"]
    let w := Workspace.single "a.txt" "hello world"
    ms.map Mutation.canonical = respelled ∧ w.resolver.lookup.find = Resolver.builtins.lookup.find ∧
      (w.applyFile "a.txt" ms).1 = .ok "heello wo-r" ∧
      (w.applyFile "a.txt" respelled).1 = .ok "heello wo-r" ∧
      Order.drops respelled = [(.delete ⟨2, some 2⟩, 2)] := by
  intro ms respelled w
  have hrespelled : ms.map Mutation.canonical = respelled := rfl
  have hbuiltins : w.resolver.lookup.find = Resolver.builtins.lookup.find := rfl
  have hresult : (w.applyFile "a.txt" ms).1 = .ok "heello wo-r" := by
    have hkept : Mutation.sweep ms = [.multiple ⟨7, some 4⟩ [.insert ⟨8, some 3⟩ "-",
        .delete ⟨9, some 11⟩], .swap ⟨2, some 1⟩ "e"] := rfl
    have hchildren : Mutation.lastToFirst [.insert ⟨8, some 3⟩ "-", .delete ⟨9, some 11⟩]
        = [.delete ⟨9, some 11⟩, .insert ⟨8, some 3⟩ "-"] := rfl
    have hmultiple : w.resolver.lookup Tag.multiple = some .multiple := rfl
    have hdelete : w.resolver.lookup Tag.delete = some .delete := rfl
    have hinsert : w.resolver.lookup Tag.insert = some .insert := rfl
    have hswap : w.resolver.lookup Tag.swap = some .swap := rfl
    have hedit : w.resolver.lookup.applyEach "hello world" (Mutation.sweep ms)
        = .ok "heello wo-r" := by
      rw [← Lookup.result_dispatchAll, hkept]
      simp only [Lookup.dispatchAll, Lookup.dispatchAllWith, Lookup.dispatchWith,
        Lookup.mutateWith, Mutation.tag, hchildren, hmultiple, hdelete, hinsert, hswap]
      rfl
    have hread : FileAccess.read w.files "a.txt"
        = (.ok "hello world", (FileAccess.read w.files "a.txt").2) := rfl
    exact (Workspace.applyFile_edited hread hedit).1
  obtain ⟨-, -, hfile⟩ := applyFile_canonical ms
  obtain ⟨hsame, -⟩ := hfile w "a.txt" hbuiltins
  exact ⟨hrespelled, hbuiltins, hresult, hsame.trans hresult, rfl⟩

end EditWaves
