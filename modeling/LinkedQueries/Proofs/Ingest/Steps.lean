import LinkedQueries.Proofs.Ingest.Aborted
import Mathlib.Logic.Function.Iterate

/-!
# An ingestion step by step

An ingestion that shares its store with others goes on where the others have left the store. It
moves in steps: an entry with a query takes two of them, one that asks the store (`look`) and one
that merges (`commit`); any other item takes one, which does not touch the store.

* `Stage` is where an ingestion stands between two steps, and `advance` is its next step.

Results:
* `advance_alone`: with the store to itself, an ingestion does step by step what `items` does.
* `advance_step`: all that a step can do, one constructor of `Step` for each case.
* `Step.cost_le`: an ingestion cannot move on for ever.
-/

namespace LinkedQueries.Ingest

open AccessLog

/-- What the lines of a log have given, with the numbers of the lines. -/
abbrev Items := List (Nat × Except LogError (Option Entry))

/-- Where an ingestion stands between two steps. -/
inductive Stage where
  /-- The next item is to be read. -/
  | reading (items : Items) (summary : IngestSummary)
  /-- The store has answered whether it knows a query, and a record is to be merged into it. -/
  | holding (known : Bool) (record : QueryRecord) (items : Items) (summary : IngestSummary)
  /-- All is read, or an error has ended the ingestion. -/
  | done (result : Except IngestError IngestSummary)

namespace Stage

/-- The stage behind an item: the next item is to be read, unless there was an error. -/
def next (rest : Items) : Except IngestError IngestSummary → Stage
  | .ok summary => .reading rest summary
  | .error e => .done (.error e)

/-- What has come of an ingestion that has ended. -/
def result? : Stage → Option (Except IngestError IngestSummary)
  | .done result => some result
  | _ => none

/-- An upper bound for the number of steps that are left. -/
def cost : Stage → Nat
  | .reading items _ => 2 * items.length + 1
  | .holding _ _ items _ => 2 * items.length + 2
  | .done _ => 0

theorem result?_eq_some {stage : Stage} {result : Except IngestError IngestSummary} :
    stage.result? = some result ↔ stage = .done result := by
  cases stage <;> simp [result?]

end Stage

/-- The entry that an item is and the query in it, if there is one. -/
def asking? : Except LogError (Option Entry) → Option (Entry × String)
  | .ok (some e) => e.query.map (e, ·)
  | _ => none

section Steps

variable (read : QueryReader) (options : IngestOptions)

/-- The next step on a store. -/
def advance (store : RecordStore) : Stage → RecordStore × Stage
  | .reading [] summary => (store, .done (.ok summary))
  | .reading ((n, x) :: rest) summary =>
    match asking? x with
    | some (e, query) =>
      let (record, summary) :=
        look read options store n e query { summary with lines := summary.lines + 1 }
      (store, .holding (store.contains (fingerprint query)) record rest summary)
    | none =>
      let (store, result) := item read options store n x summary
      (store, .next rest result)
  | .holding _ record rest summary =>
    let (store, result) := commit store record summary
    (store, .next rest result)
  | .done result => (store, .done result)

theorem asking?_eq_some {x : Except LogError (Option Entry)} {e : Entry} {query : String}
    (h : asking? x = some (e, query)) : x = .ok (some e) ∧ e.query = some query := by
  unfold asking? at h
  split at h
  · obtain ⟨_, hq, he⟩ := Option.map_eq_some_iff.mp h
    obtain ⟨rfl, rfl⟩ := Prod.mk.inj he
    exact ⟨rfl, hq⟩
  · exact absurd h nofun

/-! ## An ingestion on its own -/

/-- An item with a query is looked up and committed. -/
theorem item_asking {x : Except LogError (Option Entry)} {e : Entry} {query : String}
    (h : asking? x = some (e, query)) (s : RecordStore) (n : Nat) (c : IngestSummary) :
    item read options s n x c =
      commit s (look read options s n e query { c with lines := c.lines + 1 }).1
        (look read options s n e query { c with lines := c.lines + 1 }).2 := by
  obtain ⟨rfl, hq⟩ := asking?_eq_some h
  unfold item
  dsimp only
  unfold entry
  rw [hq]

/-- **An ingestion that has the store to itself** ends with what `items` gives. -/
theorem advance_alone : ∀ (xs : Items) (s : RecordStore) (c : IngestSummary),
    ∃ k, (fun p : RecordStore × Stage => advance read options p.1 p.2)^[k] (s, .reading xs c) =
      ((items read options xs s c).1, .done (items read options xs s c).2)
  | [], _, _ => ⟨1, rfl⟩
  | (n, x) :: xs, s, c => by
    have hnext : ∃ k, (fun p : RecordStore × Stage => advance read options p.1 p.2)^[k]
        ((item read options s n x c).1, .next xs (item read options s n x c).2) =
          ((items read options ((n, x) :: xs) s c).1,
            .done (items read options ((n, x) :: xs) s c).2) := by
      rw [items]
      rcases item read options s n x c with ⟨s', e | c'⟩
      · exact ⟨0, rfl⟩
      · exact advance_alone xs s' c'
    obtain ⟨k, hk⟩ := hnext
    cases ha : asking? x with
    | none =>
      refine ⟨k + 1, ?_⟩
      rw [Function.iterate_succ_apply, ← hk]
      dsimp only [advance]
      rw [ha]
    | some asked =>
      obtain ⟨e, query⟩ := asked
      refine ⟨k + 2, ?_⟩
      rw [Function.iterate_succ_apply, Function.iterate_succ_apply, ← hk,
        item_asking read options ha]
      dsimp only [advance]
      rw [ha]

/-! ## All that a step can do -/

/-- The record of a sighting: of a query that the store knows, or else of one that it does not. -/
def sightingRecord (known : Bool) (query : String) (execution : RemoteExecution) : QueryRecord :=
  (if known then .ofText query else newRecord read options query).addRemote execution

/-- The steps that there are from a store and a stage to a store and a stage. -/
inductive Step (s : RecordStore) : Stage → RecordStore → Stage → Prop where
  | ended (c : IngestSummary) : Step s (.reading [] c) s (.done (.ok c))
  | failed (n : Nat) (e : LogError) (rest : Items) (c : IngestSummary) :
      Step s (.reading ((n, .error e) :: rest) c) s (.done (.error (.log e)))
  | passed (n : Nat) (x : Option Entry) (rest : Items) (c c' : IngestSummary)
      (none : sightings [(n, x)] = []) (new : c'.newRecords = c.newRecords) :
      Step s (.reading ((n, .ok x) :: rest) c) s (.reading rest c')
  | looked (n : Nat) (x : Option Entry) (query : String) (execution : RemoteExecution)
      (rest : Items) (c c' : IngestSummary) (one : sightings [(n, x)] = [(query, execution)])
      (new : c'.newRecords = c.newRecords + if s.contains (fingerprint query) then 0 else 1) :
      Step s (.reading ((n, .ok x) :: rest) c) s
        (.holding (s.contains (fingerprint query))
          (sightingRecord read options (s.contains (fingerprint query)) query execution) rest c')
  | merged (known : Bool) (r : QueryRecord) (rest : Items) (c : IngestSummary) (s' : RecordStore)
      (ok : s.merge r = .ok s') :
      Step s (.holding known r rest c) s' (.reading rest { c with sightings := c.sightings + 1 })
  | refused (known : Bool) (r : QueryRecord) (rest : Items) (c : IngestSummary) (e : StoreError)
      (error : s.merge r = .error e) :
      Step s (.holding known r rest c) s (.done (.error (.store e)))
  | rested (result : Except IngestError IngestSummary) : Step s (.done result) s (.done result)

/-- **A step** is one of these. -/
theorem advance_step (s : RecordStore) (stage : Stage) :
    Step read options s stage (advance read options s stage).1
      (advance read options s stage).2 := by
  rcases stage with ⟨_ | ⟨⟨n, x⟩, rest⟩, c⟩ | ⟨known, r, rest, c⟩ | result
  · exact .ended c
  · cases ha : asking? x with
    | some asked =>
      obtain ⟨e, query⟩ := asked
      obtain ⟨rfl, hq⟩ := asking?_eq_some ha
      dsimp only [advance]
      rw [ha]
      dsimp only [look]
      rw [prepare_eq]
      exact .looked n (some e) query _ rest c _ (sightings_of_some hq n) rfl
    | none =>
      dsimp only [advance]
      rw [ha]
      rcases x with e | _ | e
      · exact .failed n e rest c
      · exact .passed n none rest c _ rfl rfl
      · have hq : e.query = none := Option.map_eq_none_iff.mp ha
        dsimp only [item, entry]
        rw [hq]
        exact .passed n (some e) rest c _ (sightings_of_none hq n) rfl
  · dsimp only [advance, commit]
    cases hm : s.merge r with
    | ok s' => exact .merged known r rest c s' hm
    | error e => exact .refused known r rest c e hm
  · exact .rested result

/-- Every step takes something off what is left. -/
theorem Step.cost_le {s s' : RecordStore} {stage stage' : Stage}
    (h : Step read options s stage s' stage') : stage'.cost ≤ stage.cost - 1 := by
  cases h <;> simp only [Stage.cost, List.length_cons] <;> omega

end Steps

end LinkedQueries.Ingest
