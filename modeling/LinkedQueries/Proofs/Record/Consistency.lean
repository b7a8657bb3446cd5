import LinkedQueries.Proofs.Record.Bracketing
import Mathlib.Logic.Function.Basic

/-!
# Hash and text stay in step

Several records are worked on by their names; a name that has not been used yet stands for the empty
record. An update changes one record: it sets text and hash together, it attaches findings and
leaves both alone, or it sets the text and exposes the record to a hash of another text. A merge
takes a copy of one record into another one.

A record is exposed from such an update on until text and hash are set together again, and a merge
passes the exposure on. `exposed` keeps account of that, without a look at the records.

Results:
* `Update.role_spec`: what an update does to text and hash, by its role.
* `afterOperations_consistent`: a record that is not exposed is consistent, by induction on the
  operations.
* **`history_consistent`**: without exposing updates all records are consistent at all times, and
  with them a record is consistent again as soon as its text and hash are set together.
-/

namespace LinkedQueries.QueryRecord

/-! ## Updates -/

/-- A change of one record. -/
inductive Update where
  | new
  | newOf (text : String)
  | setQuery (text : String)
  | setQueryOf (query : Sparql.Query)
  | clearQuery
  | setText (text : Option String)
  | rehash
  | setParseError (message : Option String)
  | setFeatures (features : Features)
  | analyze (parse : String → Except String Sparql.Query)
  | addLocal (execution : LocalExecution)
  | addRemote (execution : RemoteExecution)
  | modifyGraph (index : Nat) (change : JoinGraph → JoinGraph)

namespace Update

/-- The record after a change. -/
def apply (r : QueryRecord) : Update → QueryRecord
  | new => empty
  | newOf text => ofText text
  | setQuery text => r.withQuery text
  | setQueryOf query => r.withQueryOf query
  | clearQuery => r.withoutQuery
  | setText text => r.withText text
  | rehash => r.rehashed
  | setParseError message => r.withParseError message
  | setFeatures features => r.withFeatures features
  | analyze parse => (r.analyze parse).1
  | addLocal execution => r.addLocal execution
  | addRemote execution => r.addRemote execution
  | modifyGraph index change => r.modifyGraph index change

/-- What a change means for text and hash. -/
inductive Role where
  | settles
  | attaches
  | exposes
  deriving DecidableEq, Repr

/-- The role of a change. -/
def role : Update → Role
  | new | newOf _ | setQuery _ | setQueryOf _ | clearQuery | rehash => .settles
  | setText _ => .exposes
  | setParseError _ | setFeatures _ | analyze _ | addLocal _ | addRemote _ | modifyGraph _ _ =>
    .attaches

/-- The text after a change, which depends on the text before. -/
def text (before : Option String) : Update → Option String
  | new | clearQuery => none
  | newOf text | setQuery text => some text
  | setQueryOf query => some query.text
  | setText text => text
  | _ => before

/-- Analysing a record attaches to it. -/
theorem analyze_frame (parse : String → Except String Sparql.Query) (r : QueryRecord) :
    (r.analyze parse).1.text = r.text ∧ (r.analyze parse).1.hash = r.hash := by
  unfold QueryRecord.analyze
  split
  · exact ⟨rfl, rfl⟩
  · split <;> exact ⟨rfl, rfl⟩

/-- What becomes of text and hash in a role. -/
def Role.Spec (r : QueryRecord) (after : QueryRecord) : Role → Prop
  | settles => after.hash = after.text.map fingerprint
  | attaches => after.text = r.text ∧ after.hash = r.hash
  | exposes => after.hash = r.hash

theorem text_apply (u : Update) (r : QueryRecord) : (u.apply r).text = u.text r.text := by
  cases u with
  | analyze parse => exact (analyze_frame parse r).1
  | _ => rfl

theorem role_spec (u : Update) (r : QueryRecord) : u.role.Spec r (u.apply r) := by
  cases u with
  | setText text => rfl
  | new | newOf text | setQuery text | setQueryOf query | clearQuery | rehash => rfl
  | analyze parse => exact analyze_frame parse r
  | setParseError message | setFeatures features | addLocal execution | addRemote execution
  | modifyGraph index change => exact ⟨rfl, rfl⟩

theorem consistent_of_settles {u : Update} (h : u.role = .settles) (r : QueryRecord) :
    (u.apply r).Consistent := by
  have hspec := u.role_spec r
  rw [h] at hspec
  exact hspec

theorem frame_of_attaches {u : Update} (h : u.role = .attaches) (r : QueryRecord) :
    (u.apply r).text = r.text ∧ (u.apply r).hash = r.hash := by
  have hspec := u.role_spec r
  rw [h] at hspec
  exact hspec

end Update

/-! ## Operations on several records -/

section Records

variable {ι : Type} [DecidableEq ι]

/-- One step of a history: a change of a record, or a copy of record `j` merged into record `i`. -/
inductive Operation (ι : Type) where
  | update (i : ι) (u : Update)
  | merge (i j : ι)

/-- What a record is after another one was to be merged into it, also if that failed. -/
def afterMerge (r other : QueryRecord) : QueryRecord :=
  match (mergeInPlace other).run r with
  | .ok _ merged => merged
  | .error _ same => same

/-- The records after a step. -/
def Operation.run (records : ι → QueryRecord) : Operation ι → ι → QueryRecord
  | update i u => Function.update records i (u.apply (records i))
  | merge i j => Function.update records i (afterMerge (records i) (records j))

/-- The records after some steps; at first all are empty. -/
def afterOperations (operations : List (Operation ι)) : ι → QueryRecord :=
  operations.foldl Operation.run fun _ => empty

/-- The step sets a text without its hash. -/
def Operation.Exposes : Operation ι → Prop
  | update _ u => u.role = .exposes
  | merge _ _ => False

/-- Which records are exposed after a step. -/
def Operation.expose (exposed : ι → Bool) : Operation ι → ι → Bool
  | update i u =>
    match u.role with
    | .settles => Function.update exposed i false
    | .attaches => exposed
    | .exposes => Function.update exposed i true
  | merge i j => Function.update exposed i (exposed i || exposed j)

/-- Which records are exposed after some steps. -/
def exposed (operations : List (Operation ι)) : ι → Bool :=
  operations.foldl Operation.expose fun _ => false

theorem afterOperations_concat (operations : List (Operation ι)) (o : Operation ι) :
    afterOperations (operations ++ [o]) = o.run (afterOperations operations) := by
  unfold afterOperations
  rw [List.foldl_append, List.foldl_cons, List.foldl_nil]

/-- A merge leaves a record as it was, or fills it. -/
theorem afterMerge_cases (r other : QueryRecord) :
    afterMerge r other = r ∨ afterMerge r other = r.fill other := by
  unfold afterMerge
  rw [mergeInPlace_eq]
  cases hm : r.merge other with
  | error e => exact .inl rfl
  | ok merged => exact .inr (eq_fill_of_merge hm)

theorem Consistent.afterMerge {r other : QueryRecord} (hr : r.Consistent)
    (hother : other.Consistent) : (r.afterMerge other).Consistent := by
  rcases afterMerge_cases r other with h | h
  · rw [h]
    exact hr
  · rw [h]
    exact hr.fill hother

/-- All records that are not exposed are consistent. -/
def Guarded (records : ι → QueryRecord) (exposed : ι → Bool) : Prop :=
  ∀ i, exposed i = false → (records i).Consistent

/-- **One step** keeps account of the records that may be inconsistent. -/
theorem Guarded.run {records : ι → QueryRecord} {exposed : ι → Bool}
    (h : Guarded records exposed) (o : Operation ι) :
    Guarded (o.run records) (o.expose exposed) := by
  intro k hk
  cases o with
  | update i u =>
    by_cases hki : k = i
    · subst hki
      rw [Operation.run, Function.update_self]
      cases hrole : u.role with
      | settles => exact u.consistent_of_settles hrole _
      | attaches =>
        rw [Operation.expose, hrole] at hk
        obtain ⟨htext, hhash⟩ := u.frame_of_attaches hrole (records k)
        unfold Consistent
        rw [htext, hhash]
        exact h k hk
      | exposes => simp [Operation.expose, hrole] at hk
    · rw [Operation.run, Function.update_of_ne hki]
      refine h k ?_
      rw [Operation.expose] at hk
      cases hrole : u.role with
      | settles | exposes =>
        rw [hrole] at hk
        exact (Function.update_of_ne hki ..).symm.trans hk
      | attaches =>
        rw [hrole] at hk
        exact hk
  | merge i j =>
    rw [Operation.expose] at hk
    by_cases hki : k = i
    · subst hki
      rw [Function.update_self, Bool.or_eq_false_iff] at hk
      rw [Operation.run, Function.update_self]
      exact (h k hk.1).afterMerge (h j hk.2)
    · rw [Function.update_of_ne hki] at hk
      rw [Operation.run, Function.update_of_ne hki]
      exact h k hk

theorem Guarded.foldl : ∀ (operations : List (Operation ι)) {records : ι → QueryRecord}
    {exposed : ι → Bool}, Guarded records exposed →
      Guarded (operations.foldl Operation.run records) (operations.foldl Operation.expose exposed)
  | [], _, _, h => h
  | o :: operations, _, _, h => Guarded.foldl operations (h.run o)

/-- A record that is not exposed is consistent. -/
theorem afterOperations_consistent (operations : List (Operation ι)) :
    Guarded (afterOperations operations) (exposed operations) :=
  Guarded.foldl operations fun _ _ => consistent_empty

theorem Operation.expose_of_not {o : Operation ι} (h : ¬ o.Exposes) :
    o.expose (fun _ => false) = fun _ => false := by
  cases o with
  | update i u =>
    rw [Operation.expose]
    cases hrole : u.role with
    | settles => exact Function.update_eq_self i _
    | attaches => rfl
    | exposes => exact absurd hrole h
  | merge i j => exact Function.update_eq_self i _

/-- Where no step exposes a record, none is exposed. -/
theorem exposed_eq_false : ∀ {operations : List (Operation ι)}, (∀ o ∈ operations, ¬ o.Exposes) →
    exposed operations = fun _ => false
  | [], _ => rfl
  | o :: operations, h => by
    obtain ⟨ho, hrest⟩ := List.forall_mem_cons.mp h
    show operations.foldl Operation.expose (o.expose fun _ => false) = _
    rw [Operation.expose_of_not ho]
    exact exposed_eq_false hrest

/-- **Hash and text stay in step**, whatever is done with some records. As long as no text is set
without its hash, all records are consistent after each step, also after a merge that fails. With
such steps, the records that are not exposed are consistent. A step that sets text and hash together
leaves its record consistent, with the text that was asked for, whatever happened before; and
attaching findings changes no text and no hash. -/
theorem history_consistent (operations : List (Operation ι)) :
    ((∀ o ∈ operations, ¬ o.Exposes) → ∀ earlier, earlier <+: operations →
      ∀ i, (afterOperations earlier i).Consistent) ∧
    (∀ i, exposed operations i = false → (afterOperations operations i).Consistent) ∧
    (∀ i u, u.role = .settles →
      (afterOperations (operations ++ [.update i u]) i).Consistent ∧
      (afterOperations (operations ++ [.update i u]) i).text =
        u.text (afterOperations operations i).text) ∧
    ∀ i u, u.role = .attaches → ∀ k,
      (afterOperations (operations ++ [.update i u]) k).text = (afterOperations operations k).text ∧
      (afterOperations (operations ++ [.update i u]) k).hash = (afterOperations operations k).hash := by
  refine ⟨fun h earlier hearlier i => ?_, afterOperations_consistent operations,
    fun i u hu => ?_, fun i u hu k => ?_⟩
  · refine afterOperations_consistent earlier i ?_
    rw [exposed_eq_false fun o ho => h o (hearlier.subset ho)]
  · rw [afterOperations_concat, Operation.run, Function.update_self]
    exact ⟨u.consistent_of_settles hu _, u.text_apply _⟩
  · rw [afterOperations_concat, Operation.run]
    by_cases hk : k = i
    · subst hk
      rw [Function.update_self]
      exact u.frame_of_attaches hu _
    · rw [Function.update_of_ne hk]
      exact ⟨rfl, rfl⟩

-- a text that is set without its hash does leave a record inconsistent
example :
    ¬ (afterOperations [.update () (.newOf "ASK {}"), .update () (.setText none)] ()).Consistent :=
  nofun

end Records

end LinkedQueries.QueryRecord
