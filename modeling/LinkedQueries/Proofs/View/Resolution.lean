import LinkedQueries.View.Resolver
import LinkedQueries.Proofs.Lists

/-!
# Views follow their plans

A registry is what calls that register loaders have left. A resolver plans how a view is obtained,
and when it obtains the view it decides anew which loader to run. The two decisions agree: the
loader that the plan names is there, it alone is run, and what it gives is turned into the view as
the plan says.

* `Registry.ofCalls`: the registry that some calls leave.
* `Derivation.loads`, `Derivation.derive`: what a derivation loads, and what it makes of it.
* `Resolver.Planned`: the plans that there are, with the loaders that they need.
* `Resolver.resolveIn`: resolving with loaders that are run in any monad. `Resolver.resolve` runs
  them as they are, and `Resolver.observe` keeps the calls that are made.

Results:
* `loader?_ofCalls`: the last call for a view and a format counts.
* `planned_of_plan`, `plan_eq_error`: what a plan relies on, and when there is none.
* `resolveIn_answer`: running the loaders as they are is resolving.
* `resolveIn_of_plan`: whatever the monad, a plan is followed.
* **`resolve_follows_plan`**: when there is a plan, what is then run, and what it gives.
-/

namespace LinkedQueries

/-- What a view is a collection of. -/
abbrev ViewKind.Element : ViewKind → Type
  | .triples => Triple
  | .quads => Quad
  | .datasets => Dataset

/-- The view of some elements. -/
def View.of : (kind : ViewKind) → Partitions kind.Element → View
  | .triples, p => .triples p
  | .quads, p => .quads p
  | .datasets, p => .datasets p

theorem View.kind_of (kind : ViewKind) (p : Partitions kind.Element) :
    (View.of kind p).kind = kind := by
  cases kind <;> rfl

/-! ## Registering loaders -/

/-- A call that registers a loader of a view for a format. -/
structure Registration where
  kind : ViewKind
  format : SourceFormat
  loader : Loader kind.Element

/-- The call is about a view and a format. -/
def Registration.IsFor (c : Registration) (kind : ViewKind) (format : SourceFormat) : Prop :=
  c.kind = kind ∧ c.format = format

/-- The call is made, and no later one is about its view and its format. -/
def Registration.IsLast (calls : List Registration) (c : Registration) : Prop :=
  ∃ before after, calls = before ++ c :: after ∧ ∀ d ∈ after, ¬ d.IsFor c.kind c.format

namespace Registry

/-- The loader of a view for a format. -/
def loader? (r : Registry) : (kind : ViewKind) → SourceFormat → Option (Loader kind.Element)
  | .triples, format => r.tripleLoader? format
  | .quads, format => r.quadLoader? format
  | .datasets, format => r.datasetLoader? format

theorem supports_eq (r : Registry) (format : SourceFormat) (kind : ViewKind) :
    r.supports format kind = (r.loader? kind format).isSome := by
  cases kind <;> rfl

/-- The registry after a call. -/
def register (r : Registry) : Registration → Registry
  | ⟨.triples, format, loader⟩ => r.addTriples format loader
  | ⟨.quads, format, loader⟩ => r.addQuads format loader
  | ⟨.datasets, format, loader⟩ => r.addDatasets format loader

/-- The registry that some calls leave. -/
def ofCalls (calls : List Registration) : Registry :=
  calls.foldl register empty

variable {kind : ViewKind} {format : SourceFormat}

theorem loader?_register_self (r : Registry) (loader : Loader kind.Element) :
    (r.register ⟨kind, format, loader⟩).loader? kind format = some loader := by
  cases kind <;> exact List.lookup_cons_self

theorem loader?_register_of_not {c : Registration} (h : ¬ c.IsFor kind format) (r : Registry) :
    (r.register c).loader? kind format = r.loader? kind format := by
  obtain ⟨kind', format', loader⟩ := c
  have hlookup {α : Type} {loader : Loader α} {loaders : List (SourceFormat × Loader α)}
      (hne : format' ≠ format) : ((format', loader) :: loaders).lookup format =
        loaders.lookup format := by
    rw [List.lookup_cons, beq_eq_false_iff_ne.mpr hne.symm]
  cases kind' <;> cases kind <;> first | rfl | exact hlookup fun heq => h ⟨rfl, heq⟩

theorem loader?_foldl_of_not {after : List Registration}
    (h : ∀ c ∈ after, ¬ c.IsFor kind format) (r : Registry) :
    (after.foldl register r).loader? kind format = r.loader? kind format := by
  induction after generalizing r with
  | nil => rfl
  | cons c after ih =>
    obtain ⟨hc, hafter⟩ := List.forall_mem_cons.mp h
    rw [List.foldl_cons, ih hafter, loader?_register_of_not hc]

/-- The last call that is for a view and a format, if there is one that is. -/
theorem exists_isLast {calls : List Registration} (h : ∃ c ∈ calls, c.IsFor kind format) :
    ∃ loader, Registration.IsLast calls ⟨kind, format, loader⟩ := by
  induction calls with
  | nil => simp at h
  | cons c calls ih =>
    by_cases hcalls : ∃ d ∈ calls, d.IsFor kind format
    · obtain ⟨loader, before, after, rfl, hafter⟩ := ih hcalls
      exact ⟨loader, c :: before, after, rfl, hafter⟩
    · obtain ⟨d, hd, hfor⟩ := h
      obtain rfl | hd := List.mem_cons.mp hd
      · obtain ⟨rfl, rfl⟩ := hfor
        exact ⟨d.loader, [], calls, rfl, fun c hc hfor => hcalls ⟨c, hc, hfor⟩⟩
      · exact absurd ⟨d, hd, hfor⟩ hcalls

theorem loader?_ofCalls_of_isLast {calls : List Registration} {loader : Loader kind.Element}
    (h : Registration.IsLast calls ⟨kind, format, loader⟩) :
    (ofCalls calls).loader? kind format = some loader := by
  obtain ⟨before, after, rfl, hafter⟩ := h
  rw [ofCalls, List.foldl_append, List.foldl_cons, loader?_foldl_of_not hafter,
    loader?_register_self]

/-- There is a loader if one was registered. -/
theorem loader?_ofCalls_eq_none {calls : List Registration} :
    (ofCalls calls).loader? kind format = none ↔ ∀ c ∈ calls, ¬ c.IsFor kind format := by
  refine ⟨fun hnone c hc hfor => ?_, fun h => ?_⟩
  · obtain ⟨loader, hlast⟩ := exists_isLast ⟨c, hc, hfor⟩
    rw [loader?_ofCalls_of_isLast hlast] at hnone
    cases hnone
  · rw [ofCalls, loader?_foldl_of_not h]
    cases kind <;> rfl

theorem supports_ofCalls_eq_false {calls : List Registration} :
    (ofCalls calls).supports format kind = false ↔ ∀ c ∈ calls, ¬ c.IsFor kind format := by
  rw [supports_eq, Option.isSome_eq_false_iff, Option.isNone_iff_eq_none, loader?_ofCalls_eq_none]

/-- **The last call** for a view and a format counts. -/
theorem loader?_ofCalls {calls : List Registration} {loader : Loader kind.Element} :
    (ofCalls calls).loader? kind format = some loader ↔
      Registration.IsLast calls ⟨kind, format, loader⟩ := by
  refine ⟨fun h => ?_, loader?_ofCalls_of_isLast⟩
  by_cases hcalls : ∃ c ∈ calls, c.IsFor kind format
  · obtain ⟨last, hlast⟩ := exists_isLast hcalls
    rw [loader?_ofCalls_of_isLast hlast] at h
    exact Option.some.inj h ▸ hlast
  · rw [loader?_ofCalls_eq_none.mpr fun c hc hfor => hcalls ⟨c, hc, hfor⟩] at h
    cases h

end Registry

/-! ## Plans -/

/-- The views from which a view can be derived. -/
def ViewKind.fallbacks : ViewKind → List ViewKind
  | .triples => [.quads]
  | .quads => [.triples]
  | .datasets => [.triples, .quads]

namespace Derivation

/-- The view that a derivation loads. -/
def loads : Derivation → ViewKind
  | .direct kind => kind
  | .dropGraphs | .groupQuads => .quads
  | .placeInDefaultGraph | .groupTriples _ => .triples

/-- What a derivation makes of what it has loaded; groups are spread over some partitions. -/
def derive (count : Nat) : (d : Derivation) → Partitions d.loads.Element →
    Partitions d.target.Element
  | .direct _, p => p
  | .dropGraphs, p => p.map (·.toTriple)
  | .placeInDefaultGraph, p => p.map (·.inGraph .default)
  | .groupTriples by_, p => Resolver.oneGraphEach (by_.group count p)
  | .groupQuads, p => Resolver.oneGraphEach (groupByGraph count p)

end Derivation

namespace Resolver

/-- The plans that there are for a view of dumps in a format. -/
inductive Planned (r : Resolver) (format : SourceFormat) : ViewKind → Derivation → Prop
  | direct {kind : ViewKind} (hkind : r.registry.supports format kind = true) :
    Planned r format kind (.direct kind)
  | dropGraphs (hkind : r.registry.supports format .triples = false)
      (hquads : r.registry.supports format .quads = true) :
    Planned r format .triples .dropGraphs
  | placeInDefaultGraph (hkind : r.registry.supports format .quads = false)
      (htriples : r.registry.supports format .triples = true) :
    Planned r format .quads .placeInDefaultGraph
  | groupTriples (hkind : r.registry.supports format .datasets = false)
      (htriples : r.registry.supports format .triples = true)
      (honly : format.isTriples = true ∨ r.registry.supports format .quads = false) :
    Planned r format .datasets (.groupTriples r.options.grouping)
  | groupQuads (hkind : r.registry.supports format .datasets = false)
      (hquads : r.registry.supports format .quads = true) :
    Planned r format .datasets .groupQuads

variable {r : Resolver} {format : SourceFormat} {kind : ViewKind} {d : Derivation}

theorem plan_of_supports (h : r.registry.supports format kind = true) :
    r.plan format kind = .ok (.direct kind) := by
  unfold plan
  rw [if_pos h]

/-- **A plan** is one of those that there are. -/
theorem planned_of_plan (h : r.plan format kind = .ok d) : r.Planned format kind d := by
  by_cases hkind : r.registry.supports format kind = true
  · rw [plan_of_supports hkind] at h
    cases h
    exact .direct hkind
  unfold plan at h
  rw [if_neg hkind] at h
  rw [Bool.not_eq_true] at hkind
  cases kind with
  | triples =>
    dsimp only at h
    split at h
    next hquads => cases h; exact .dropGraphs hkind hquads
    next => cases h
  | quads =>
    dsimp only at h
    split at h
    next htriples => cases h; exact .placeInDefaultGraph hkind htriples
    next => cases h
  | datasets =>
    dsimp only at h
    split at h
    next htriples =>
      cases h
      simp only [Bool.and_eq_true, Bool.or_eq_true, Bool.not_eq_true'] at htriples
      exact .groupTriples hkind htriples.1 htriples.2
    next =>
      split at h
      next hquads => cases h; exact .groupQuads hkind hquads
      next => cases h

namespace Planned

theorem target (h : r.Planned format kind d) : d.target = kind := by
  cases h <;> rfl

/-- What a plan loads has a loader. -/
theorem supports_loads (h : r.Planned format kind d) :
    r.registry.supports format d.loads = true := by
  cases h <;> assumption

/-- A view with a loader is not derived. -/
theorem supports_eq_false (h : r.Planned format kind d) (hloads : d.loads ≠ kind) :
    r.registry.supports format kind = false := by
  cases h with
  | direct => exact absurd rfl hloads
  | _ => assumption

/-- Triples are grouped only if there are no quads to be grouped by their graphs. -/
theorem of_groupTriples {by_ : TripleGrouping} (h : r.Planned format kind (.groupTriples by_)) :
    by_ = r.options.grouping ∧
      (format.isTriples = true ∨ r.registry.supports format .quads = false) := by
  cases h with
  | groupTriples hkind htriples honly => exact ⟨rfl, honly⟩

end Planned

/-- There is no plan if neither the view nor one to derive it from can be loaded. -/
theorem plan_eq_error {e : DumpError} : r.plan format kind = .error e ↔
    (∀ k ∈ kind :: kind.fallbacks, r.registry.supports format k = false) ∧
      .unsupported format kind = e := by
  by_cases hkind : r.registry.supports format kind = true
  · simp [plan_of_supports hkind, hkind]
  unfold plan
  rw [if_neg hkind]
  cases kind <;> simp [ViewKind.fallbacks] <;> grind

/-! ## Running loaders in any monad -/

/-- A loader that is run on a dump. -/
structure LoaderCall where
  kind : ViewKind
  loader : Loader kind.Element
  source : Source
  options : ViewOptions

/-- What a loader gives. -/
def LoaderCall.answer (files : Files) (c : LoaderCall) :
    Except DumpError (Partitions c.kind.Element) :=
  c.loader files c.source c.options

section

variable {m : Type → Type} [Monad m] [MonadExcept DumpError m]
  (run : (c : LoaderCall) → m (Partitions c.kind.Element)) (r : Resolver) (source : Source)

/-- Runs the loader of a view, if there is one. -/
def loadIn (kind : ViewKind) : m (Partitions kind.Element) :=
  match r.registry.loader? kind source.format with
  | some loader => run ⟨kind, loader, source, r.options⟩
  | none => throw (.unsupported source.format kind)

/-- The triples of a dump. -/
def triplesIn : m (Partitions Triple) := do
  match ← MonadExcept.ofExcept (r.plan source.format .triples) with
  | .dropGraphs => return (← loadIn run r source .quads).map (·.toTriple)
  | _ => loadIn run r source .triples

/-- The quads of a dump. -/
def quadsIn : m (Partitions Quad) := do
  match ← MonadExcept.ofExcept (r.plan source.format .quads) with
  | .placeInDefaultGraph => return (← loadIn run r source .triples).map (·.inGraph .default)
  | _ => loadIn run r source .quads

/-- The datasets of a dump. -/
def datasetsIn : m (Partitions Dataset) := do
  match ← MonadExcept.ofExcept (r.plan source.format .datasets) with
  | .groupTriples by_ =>
    return oneGraphEach (by_.group r.options.partitionCount (← loadIn run r source .triples))
  | .groupQuads =>
    return oneGraphEach (groupByGraph r.options.partitionCount (← loadIn run r source .quads))
  | _ => loadIn run r source .datasets

/-- A view of a dump. -/
def resolveIn : ViewKind → m View
  | .triples => View.triples <$> triplesIn run r source
  | .quads => View.quads <$> quadsIn run r source
  | .datasets => View.datasets <$> datasetsIn run r source

end

theorem loadIn_answer (files : Files) (r : Resolver) (source : Source) (kind : ViewKind) :
    loadIn (LoaderCall.answer files) r source kind =
      r.load files source kind (r.registry.loader? kind source.format) := by
  unfold loadIn load
  cases r.registry.loader? kind source.format <;> rfl

theorem ofExcept_self {ε α : Type} (x : Except ε α) :
    (MonadExcept.ofExcept x : Except ε α) = x := by
  cases x <;> rfl

/-- With the loaders as they are, this is how views are resolved. -/
theorem resolveIn_answer (files : Files) (r : Resolver) (source : Source) (kind : ViewKind) :
    resolveIn (LoaderCall.answer files) r source kind = r.resolve files source kind := by
  have hload := loadIn_answer files r source
  cases kind with
  | triples =>
    simp only [resolveIn, triplesIn, hload, ofExcept_self]
    rfl
  | quads =>
    simp only [resolveIn, quadsIn, hload, ofExcept_self]
    rfl
  | datasets =>
    simp only [resolveIn, datasetsIn, hload, ofExcept_self]
    rfl

/-- **A plan is followed**, whatever it is to run a loader. -/
theorem resolveIn_of_plan {m : Type → Type} [Monad m] [LawfulMonad m] [MonadExcept DumpError m]
    (run : (c : LoaderCall) → m (Partitions c.kind.Element)) {r : Resolver} {source : Source}
    {kind : ViewKind} {d : Derivation} (h : r.plan source.format kind = .ok d) :
    resolveIn run r source kind =
      (fun p => View.of d.target (d.derive r.options.partitionCount p)) <$>
        loadIn run r source d.loads := by
  -- Each view matches on the plans for itself, so the plan and the view are taken together.
  have hplanned := planned_of_plan h
  cases hplanned with
  | direct hkind =>
    cases kind <;> simp [resolveIn, triplesIn, quadsIn, datasetsIn, h, MonadExcept.ofExcept] <;> rfl
  | dropGraphs => simp [resolveIn, triplesIn, h, MonadExcept.ofExcept]; rfl
  | placeInDefaultGraph => simp [resolveIn, quadsIn, h, MonadExcept.ofExcept]; rfl
  | groupTriples => simp [resolveIn, datasetsIn, h, MonadExcept.ofExcept]; rfl
  | groupQuads => simp [resolveIn, datasetsIn, h, MonadExcept.ofExcept]; rfl

/-! ## Keeping the calls -/

/-- Runs a loader and keeps the call. -/
def recorded (files : Files) (c : LoaderCall) :
    ExceptT DumpError (StateM (List LoaderCall)) (Partitions c.kind.Element) := do
  modify (· ++ [c])
  MonadExcept.ofExcept (c.answer files)

/-- A view of a dump, and the calls of loaders that are made for it. -/
def observe (r : Resolver) (files : Files) (source : Source) (kind : ViewKind) :
    Except DumpError View × List LoaderCall :=
  (resolveIn (recorded files) r source kind).run.run []

section

variable {source : Source} {files : Files}

theorem resolve_of_plan {loader : Loader d.loads.Element}
    (h : r.plan source.format kind = .ok d)
    (hloader : r.registry.loader? d.loads source.format = some loader) :
    r.resolve files source kind = (loader files source r.options).map fun p =>
      View.of d.target (d.derive r.options.partitionCount p) := by
  rw [← resolveIn_answer, resolveIn_of_plan _ h, loadIn, hloader]
  rfl

theorem observe_of_plan {loader : Loader d.loads.Element}
    (h : r.plan source.format kind = .ok d)
    (hloader : r.registry.loader? d.loads source.format = some loader) :
    r.observe files source kind =
      (r.resolve files source kind, [⟨d.loads, loader, source, r.options⟩]) := by
  rw [observe, resolveIn_of_plan _ h, loadIn, hloader, resolve_of_plan h hloader]
  simp only [recorded, LoaderCall.answer]
  cases loader files source r.options <;> rfl

theorem resolve_of_plan_error {e : DumpError} (h : r.plan source.format kind = .error e) :
    r.resolve files source kind = .error e := by
  cases kind with
  | triples => rw [resolve, triples, h]; rfl
  | quads => rw [resolve, quads, h]; rfl
  | datasets => rw [resolve, datasets, h]; rfl

theorem observe_of_plan_error {e : DumpError} (h : r.plan source.format kind = .error e) :
    r.observe files source kind = (.error e, []) := by
  cases kind with
  | triples => rw [observe, resolveIn, triplesIn, h]; rfl
  | quads => rw [observe, resolveIn, quadsIn, h]; rfl
  | datasets => rw [observe, resolveIn, datasetsIn, h]; rfl

end

end Resolver

open Registry in
/-- **Views follow their plans**, whatever loaders were registered. There is a plan unless no loader
was registered for the view or for one it can be derived from, and without a plan nothing is run. A
plan gives the view that was asked for: the last loader registered for what it loads is run once and
no other is, an error of the loader is the error, and what the loader gives is derived as planned.
What is loaded is not derived in turn, a view with a loader is not derived, and triples are grouped
only if the format has no graphs or no loader gives them. -/
theorem resolve_follows_plan (calls : List Registration) (options : ViewOptions) (files : Files)
    (source : Source) (kind : ViewKind) :
    let r : Resolver := ⟨Registry.ofCalls calls, options⟩
    ((∃ e, r.plan source.format kind = .error e) ↔
      ∀ k ∈ kind :: kind.fallbacks, ∀ c ∈ calls, ¬ c.IsFor k source.format) ∧
    (∀ e, r.plan source.format kind = .error e →
      e = .unsupported source.format kind ∧ r.resolve files source kind = .error e ∧
        r.observe files source kind = (.error e, [])) ∧
    ∀ d, r.plan source.format kind = .ok d →
      d.target = kind ∧
      (∃ loader, Registration.IsLast calls ⟨d.loads, source.format, loader⟩ ∧
        r.resolve files source kind = (loader files source options).map (fun p =>
          View.of d.target (d.derive options.partitionCount p)) ∧
        r.observe files source kind =
          (r.resolve files source kind, [⟨d.loads, loader, source, options⟩])) ∧
      (∀ view, r.resolve files source kind = .ok view → view.kind = kind) ∧
      r.plan source.format d.loads = .ok (.direct d.loads) ∧
      (d.loads ≠ kind → ∀ c ∈ calls, ¬ c.IsFor kind source.format) ∧
      ∀ by_, d = .groupTriples by_ → by_ = options.grouping ∧
        (source.format.isTriples = true ∨ ∀ c ∈ calls, ¬ c.IsFor .quads source.format) := by
  intro r
  refine ⟨?_, fun e he => ⟨?_, ?_, ?_⟩, fun d hd => ?_⟩
  · simp only [Resolver.plan_eq_error, exists_and_left, exists_eq', and_true,
      supports_ofCalls_eq_false, r]
  · exact (Resolver.plan_eq_error.mp he).2.symm
  · exact Resolver.resolve_of_plan_error he
  · exact Resolver.observe_of_plan_error he
  have hplanned := Resolver.planned_of_plan hd
  obtain ⟨loader, hloader⟩ := Option.isSome_iff_exists.mp
    (supports_eq r.registry source.format d.loads ▸ hplanned.supports_loads)
  have hresolve : r.resolve files source kind = (loader files source options).map (fun p =>
      View.of d.target (d.derive options.partitionCount p)) := Resolver.resolve_of_plan hd hloader
  refine ⟨hplanned.target, ⟨loader, loader?_ofCalls.mp hloader, hresolve,
    Resolver.observe_of_plan hd hloader⟩, fun view hview => ?_,
    Resolver.plan_of_supports hplanned.supports_loads, fun hloads => ?_, ?_⟩
  · rw [hresolve, map_eq_ok] at hview
    obtain ⟨p, -, rfl⟩ := hview
    rw [View.kind_of, hplanned.target]
  · exact supports_ofCalls_eq_false.mp (hplanned.supports_eq_false hloads)
  · rintro by_ rfl
    obtain ⟨hby, honly⟩ := hplanned.of_groupTriples
    exact ⟨hby, honly.imp_right supports_ofCalls_eq_false.mp⟩

/-- Datasets of a format that is not known, which can be read as triples and as quads. The loader of
quads that fails was replaced by one that does not. -/
theorem resolve_follows_plan_replaced :
    let format : SourceFormat := .unknown "tables"
    let failing : Loader Quad := fun _ _ _ => .error (.io .missingFile)
    let triple : Triple := ⟨.iri "x:s", "x:p", .iri "x:o"⟩
    let quads : Partitions Quad := ⟨[[triple.inGraph (.iri "x:g")], [triple.inGraph .default]]⟩
    let loader : Loader Quad := fun _ _ _ => .ok quads
    let calls : List Registration := [⟨.quads, format, failing⟩,
      ⟨.triples, format, fun _ _ _ => .ok ⟨[]⟩⟩, ⟨.quads, format, loader⟩,
      ⟨.quads, .rdf .nQuads, failing⟩]
    let r : Resolver := ⟨Registry.ofCalls calls, {}⟩
    let source : Source := ⟨.file "data", format⟩
    r.plan format .datasets = .ok .groupQuads ∧
    r.observe .empty source .datasets =
      (.ok (.datasets (Resolver.oneGraphEach (groupByGraph 8 quads))),
        [⟨.quads, loader, source, {}⟩]) := by
  intro format failing triple quads loader calls r source
  have hplan : r.plan format .datasets = .ok .groupQuads := by decide +kernel
  obtain ⟨-, -, hfollowed⟩ := resolve_follows_plan calls {} .empty source .datasets
  obtain ⟨-, ⟨last, hlast, hresolve, hobserve⟩, -⟩ := hfollowed _ hplan
  have hloader : (Registry.ofCalls calls).loader? .quads format = some loader := rfl
  obtain rfl : loader = last :=
    Option.some.inj (hloader.symm.trans (Registry.loader?_ofCalls.mpr hlast))
  exact ⟨hplan, hobserve.trans (by rw [hresolve]; rfl)⟩

end LinkedQueries
