import LinkedQueries.Proofs.RecordStream.LifeCycle

/-!
# Record streams under other blank node labels

The labels that a reader makes up for anonymous blank nodes differ from reading to reading. A stream
looks at labels only to compare them, so if the events of two readings are the same up to other
labels, the items of two streams are.

Results:
* `continues_relabel`, `runs_relabel`: the runs of relabelled statements are the relabelled runs.
* `items_relabel`: the items of relabelled events are the relabelled items.
* **`answer_relabel`**: the answers of a stream, poll by poll.
-/

namespace LinkedQueries

/-! ## Other labels -/

/-- The term with other blank node labels. -/
def Term.relabel (ρ : String → String) : Term → Term
  | .iri i => .iri i
  | .blank l => .blank (ρ l)
  | .literal l => .literal l
  | .triple s p o => .triple (s.relabel ρ) p (o.relabel ρ)

/-- The triple with other blank node labels. -/
def Triple.relabel (ρ : String → String) (t : Triple) : Triple :=
  ⟨t.subject.relabel ρ, t.predicate, t.object.relabel ρ⟩

/-- The graph name with another blank node label. -/
def GraphName.relabel (ρ : String → String) : GraphName → GraphName
  | .default => .default
  | .iri i => .iri i
  | .blank l => .blank (ρ l)

/-- The quad with other blank node labels. -/
def Quad.relabel (ρ : String → String) (q : Quad) : Quad :=
  (q.toTriple.relabel ρ).inGraph (q.graph.relabel ρ)

/-- The event with other blank node labels. -/
def ReadEvent.relabel (ρ : String → String) : ReadEvent → ReadEvent
  | .statement q => .statement (q.relabel ρ)
  | .malformed message => .malformed message
  | .failed failure => .failed failure

/-- The record with other blank node labels. -/
def ResourceRecord.relabel (ρ : String → String) (r : ResourceRecord) : ResourceRecord :=
  ⟨r.resource.relabel ρ, r.graph.relabel ρ, r.triples.map (·.relabel ρ)⟩

section Injective

variable {ρ : String → String} (hρ : ρ.Injective)
include hρ

theorem Term.relabel_injective : (Term.relabel ρ).Injective
  | .iri i, t, h => by cases t <;> simp_all [Term.relabel]
  | .blank l, t, h => by
    cases t with
    | blank l' =>
      simp only [Term.relabel, Term.blank.injEq] at h
      rw [hρ h]
    | _ => simp [Term.relabel] at h
  | .literal l, t, h => by cases t <;> simp_all [Term.relabel]
  | .triple s p o, t, h => by
    cases t with
    | triple s' p' o' =>
      simp only [Term.relabel, Term.triple.injEq] at h
      obtain ⟨hs, rfl, ho⟩ := h
      rw [Term.relabel_injective hs, Term.relabel_injective ho]
    | _ => simp [Term.relabel] at h

theorem GraphName.relabel_injective : (GraphName.relabel ρ).Injective
  | .default, g, h => by cases g <;> simp_all [GraphName.relabel]
  | .iri i, g, h => by cases g <;> simp_all [GraphName.relabel]
  | .blank l, g, h => by
    cases g with
    | blank l' =>
      simp only [GraphName.relabel, GraphName.blank.injEq] at h
      rw [hρ h]
    | _ => simp [GraphName.relabel] at h

end Injective

namespace RecordStream

/-! ## Records -/

theorem resource_relabel (ρ : String → String) (q : Quad) :
    resource (q.relabel ρ) = (resource q).relabel ρ := by
  obtain ⟨t, g⟩ := q
  cases g <;> rfl

theorem record_relabel (ρ : String → String) (first : Quad) (more : List Quad) :
    record (first.relabel ρ) (more.map (·.relabel ρ)) = (record first more).relabel ρ := by
  unfold record ResourceRecord.relabel
  rw [resource_relabel, ← List.map_cons, List.map_map, List.map_map]
  rfl

section Injective

variable {ρ : String → String} (hρ : ρ.Injective)
include hρ

theorem continues_relabel (first q : Quad) :
    continues (first.relabel ρ) (q.relabel ρ) = continues first q := by
  have hgraph : (q.relabel ρ).graph = (first.relabel ρ).graph ↔ q.graph = first.graph :=
    (GraphName.relabel_injective hρ).eq_iff
  rw [Bool.eq_iff_iff, continues_iff, continues_iff, resource_relabel, resource_relabel,
    (Term.relabel_injective hρ).eq_iff, hgraph]

theorem runs_relabel (quads : List Quad) :
    runs (quads.map (·.relabel ρ)) = (runs quads).map (·.relabel ρ) := by
  induction quads using runs.induct with
  | case1 => rw [List.map_nil, runs, List.map_nil]
  | case2 first rest ih =>
    have hsame : (continues (first.relabel ρ)) ∘ (·.relabel ρ) = continues first :=
      funext (continues_relabel hρ first)
    rw [List.map_cons, runs_cons, runs_cons, List.takeWhile_map, List.dropWhile_map, hsame, ih,
      record_relabel, List.map_cons]

end Injective

/-! ## Items -/

section Events

variable (ρ : String → String) (failFast : Bool)

theorem failure?_relabel (e : ReadEvent) :
    failure? failFast (e.relabel ρ) = failure? failFast e := by
  cases e <;> rfl

theorem quad?_relabel (e : ReadEvent) : (e.relabel ρ).quad? = e.quad?.map (·.relabel ρ) := by
  cases e <;> rfl

theorem accepted_relabel (events : List ReadEvent) :
    accepted failFast (events.map (·.relabel ρ)) =
      (accepted failFast events).map (·.relabel ρ) := by
  have hsame : (fun e => (failure? failFast e).isNone) ∘ (ReadEvent.relabel ρ) =
      fun e => (failure? failFast e).isNone :=
    funext fun e => congrArg _ (failure?_relabel ρ failFast e)
  have hquad : ReadEvent.quad? ∘ (ReadEvent.relabel ρ) =
      fun e => e.quad?.map (·.relabel ρ) := funext (quad?_relabel ρ)
  unfold accepted before
  rw [List.takeWhile_map, hsame, List.filterMap_map, hquad, List.map_filterMap]

theorem ending?_relabel (events : List ReadEvent) :
    ending? failFast (events.map (·.relabel ρ)) = ending? failFast events := by
  unfold ending?
  rw [List.findSome?_map]
  exact congrArg (events.findSome? ·) (funext (failure?_relabel ρ failFast))

end Events

section Injective

variable {ρ : String → String} (hρ : ρ.Injective)
include hρ

theorem finish_relabel (quads : List Quad) : ∀ ending : Option StreamError,
    finish (quads.map (·.relabel ρ)) ending =
      (finish quads ending).map (Except.map (·.relabel ρ))
  | none => by
    unfold finish
    rw [runs_relabel hρ, List.map_map, List.map_map]
    rfl
  | some e => by
    unfold finish
    dsimp only
    rw [runs_relabel hρ, ← List.map_dropLast, List.map_append, List.map_map, List.map_map]
    rfl

/-- The items of relabelled events are the relabelled items. -/
theorem items_relabel (failFast : Bool) (events : List ReadEvent) :
    items failFast (events.map (·.relabel ρ)) =
      (items failFast events).map (Except.map (·.relabel ρ)) := by
  unfold items
  rw [accepted_relabel, ending?_relabel, finish_relabel hρ]

end Injective

/-! ## Answers -/

/-- An answer with other blank node labels. -/
def relabelled (ρ : String → String) (a : Answer) : Answer :=
  a.map (Except.map (·.relabel ρ))

variable {read read' : StatementReader} {options : StreamOptions} {input : Input}

/-- Under a base IRI that is at fault nothing is read. -/
theorem answer_of_badBase {e : StreamError} (h : baseFault? options = some e)
    (source : Except Failure Input) : ∀ n,
    answer read options source n = if n = 0 then some (.error e) else none
  | 0 => answer_badBase read options source h
  | n + 1 => by
    obtain ⟨hdone, -⟩ :=
      answers_of_error read options source (answer_badBase read options source h) n
    exact congrArg (·.2) ((afterPolls_step read options source (n + 1)).eq_of_done hdone)

/-- **The answers** of streams over an input whose readings differ in labels differ in labels. -/
theorem answer_relabel {ρ : String → String} (hρ : ρ.Injective)
    (h : read' options.format options.base input =
      (read options.format options.base input).map (·.relabel ρ)) (n : Nat) :
    answer read' options (.ok input) n = relabelled ρ (answer read options (.ok input) n) := by
  cases hbase : baseFault? options with
  | none =>
    rw [answer_eq_getElem? hbase, answer_eq_getElem? hbase, h, items_relabel hρ, List.getElem?_map]
    rfl
  | some e =>
    rw [answer_of_badBase hbase, answer_of_badBase hbase]
    split <;> rfl

end RecordStream

end LinkedQueries
