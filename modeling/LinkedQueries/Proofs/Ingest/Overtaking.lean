import LinkedQueries.Proofs.Ingest.Shared
import Mathlib.Algebra.BigOperators.Group.Finset.Basic
import Mathlib.Data.Fintype.Basic

/-!
# New records of several ingestions

An ingestion counts a query as new when the store does not know it, and merges it one step later.
Between the two steps another ingestion may merge the same query: then it has been overtaken, and
both have counted it.

* `Stage.overtaken` says that the query an ingestion has counted has come into the store meanwhile.
* `Shared.overtakings` is the number of merges on a schedule that come too late in this way.

Results:
* `balance_moves`: what has been counted against what is in the store, by induction on the schedule.
* **`sum_newRecords`**: the counts of all ingestions add up to the new records and the overtakings.
* **`newRecords_counted_twice`**: two ingestions that count one new record.
-/

namespace LinkedQueries

namespace RecordStore

/-- The hashes of a store that another one does not have. -/
def hashesBeyond (s' s : RecordStore) : List String :=
  s'.hashes.filter fun hash => !s.contains hash

/-- A store that keeps all hashes of another one has as many more as it has more records. -/
theorem length_hashesBeyond {s s' : RecordStore}
    (h : ∀ hash, s.contains hash → s'.contains hash) :
    (s'.hashesBeyond s).length + s.size = s'.size := by
  have hkept : (s'.hashes.filter fun hash => s.contains hash).Perm s.hashes := by
    refine (List.perm_ext_iff_of_nodup (s'.records.nodup_keys.filter _)
      s.records.nodup_keys).mpr fun hash => ?_
    have hs : hash ∈ s.hashes ↔ s.contains hash = true := s.records.mem_keys_iff hash
    have hs' : hash ∈ s'.hashes ↔ s'.contains hash = true := s'.records.mem_keys_iff hash
    rw [List.mem_filter]
    show hash ∈ s'.hashes ∧ _ ↔ hash ∈ s.hashes
    rw [hs, hs']
    exact ⟨fun hb => hb.2, fun hb => ⟨h hash hb, hb⟩⟩
  have hlength := List.length_eq_length_filter_add (l := s'.hashes) fun hash => s.contains hash
  have hsize (t : RecordStore) : t.hashes.length = t.size := t.records.length_keys
  rw [hkept.length_eq, hsize, hsize] at hlength
  unfold hashesBeyond
  omega

end RecordStore

namespace Ingest

open AccessLog RecordStore

/-! ## One step -/

namespace Stage

/-- The new records that an ingestion has counted so far; an error leaves no count. -/
def counted : Stage → Nat
  | .reading _ c => c.newRecords
  | .holding _ _ _ c => c.newRecords
  | .done (.ok c) => c.newRecords
  | .done (.error _) => 0

/-- The new records that an ingestion has counted and not merged yet. -/
def pending : Stage → Nat
  | .holding false _ _ _ => 1
  | _ => 0

/-- Whether an ingestion holds a record that it is about to merge. -/
def holds : Stage → Bool
  | .holding .. => true
  | _ => false

/-- An ingestion holds a record that it has counted as new, and the store has one of that hash. -/
def overtaken (s : RecordStore) : Stage → Bool
  | .holding false r _ _ => r.hash.any s.contains
  | _ => false

/-- An error has ended the ingestion. -/
def Failed (stage : Stage) : Prop :=
  ∃ e, stage = .done (.error e)

/-- The record that is held has a hash, and the store has one of that hash if it had one before. -/
def Sound (s : RecordStore) (stage : Stage) : Prop :=
  ∀ known r rest c, stage = .holding known r rest c →
    ∃ hash, r.hash = some hash ∧ (known = true → s.contains hash = true)

end Stage

section Step

variable {read : QueryReader} {options : IngestOptions} {s s' : RecordStore} {stage stage' : Stage}

/-- What a step may do to the store: nothing, or merge the record that is held. -/
theorem Step.store_cases (h : Step read options s stage s' stage') (hs : s.WellKeyed)
    (hsound : stage.Sound s) :
    s' = s ∨ ∃ known r rest c hash, stage = .holding known r rest c ∧ r.hash = some hash ∧
      Merged s hash r s' := by
  cases h with
  | merged known r rest c s' ok =>
    obtain ⟨hash, hr, -⟩ := hsound known r rest c rfl
    obtain ⟨s'', hmerge, hmerged⟩ := merge_spec hs hr
    cases ok.symm.trans hmerge
    exact .inr ⟨known, r, rest, c, hash, rfl, hr, hmerged⟩
  | _ => exact .inl rfl

theorem Step.wellKeyed (h : Step read options s stage s' stage') (hs : s.WellKeyed)
    (hsound : stage.Sound s) : s'.WellKeyed := by
  rcases h.store_cases hs hsound with rfl | ⟨known, r, rest, c, hash, -, -, hmerged⟩
  · exact hs
  · exact hmerged.wellKeyed

/-- A step keeps all hashes of the store. -/
theorem Step.contains (h : Step read options s stage s' stage') (hs : s.WellKeyed)
    (hsound : stage.Sound s) (hash : String) (hc : s.contains hash = true) :
    s'.contains hash = true := by
  rcases h.store_cases hs hsound with rfl | ⟨known, r, rest, c, other, -, -, hmerged⟩
  · exact hc
  · rw [hmerged.contains, hc, Bool.true_or]

theorem Step.sound (h : Step read options s stage s' stage') : stage'.Sound s' := by
  intro known r rest c hstage
  cases h with
  | looked n x query execution rest c c' one new =>
    cases hstage
    exact ⟨fingerprint query, sightingRecord_hash .., id⟩
  | _ => cases hstage

/-- Who has just asked for a query has not been overtaken. -/
theorem Step.not_overtaken (h : Step read options s stage s' stage') :
    stage'.overtaken s' = false := by
  cases h with
  | looked n x query execution rest c c' one new =>
    cases hc : s.contains (fingerprint query) with
    | true => rfl
    | false =>
      dsimp only [Stage.overtaken]
      rw [sightingRecord_hash]
      exact hc
  | _ => rfl

/-- An ingestion that an error has ended stays so. -/
theorem Step.remains_failed (h : Step read options s stage s' stage') (hfailed : stage.Failed) :
    stage'.Failed := by
  obtain ⟨e, rfl⟩ := hfailed
  cases h
  exact ⟨e, rfl⟩

/-- **The account of a step**: what has been counted is pending or in the store, except where a
record is merged too late. -/
theorem Step.balance (h : Step read options s stage s' stage') (hs : s.WellKeyed)
    (hsound : stage.Sound s) (hok : ¬ stage'.Failed) :
    stage'.counted + stage.pending + s.size =
      stage.counted + stage'.pending + s'.size + (stage.overtaken s).toNat := by
  cases h with
  | ended c => rfl
  | failed n e rest c => exact absurd ⟨_, rfl⟩ hok
  | passed n x rest c c' none new =>
    dsimp only [Stage.counted, Stage.pending, Stage.overtaken]
    rw [new]
    rfl
  | looked n x query execution rest c c' one new =>
    dsimp only [Stage.counted]
    rw [new]
    cases s.contains (fingerprint query) <;>
      simp only [Stage.pending, Stage.overtaken, Bool.toNat_false, Bool.false_eq_true, if_true,
        if_false] <;> omega
  | merged known r rest c s' ok =>
    obtain ⟨hash, hr, hknown⟩ := hsound known r rest c rfl
    obtain ⟨s'', hmerge, hmerged⟩ := merge_spec hs hr
    cases ok.symm.trans hmerge
    have hsize := hmerged.size
    cases known with
    | true =>
      -- the store has not lost what it knew, so that the record takes no new place
      rw [hknown rfl] at hsize
      simp only [Stage.counted, Stage.pending, Stage.overtaken, Bool.toNat_false, if_true] at hsize ⊢
      omega
    | false =>
      -- a counted record takes a new place, unless it has been overtaken
      simp only [Stage.counted, Stage.pending, Stage.overtaken, hr, Option.any_some]
      cases hc : s.contains hash <;>
        simp only [hc, Bool.toNat_false, Bool.toNat_true, Bool.false_eq_true, if_true,
          if_false] at hsize ⊢ <;> omega
  | refused known r rest c e error => exact absurd ⟨_, rfl⟩ hok
  | rested result => rfl

end Step

/-- What a store keeps keeps a stage sound. -/
theorem Stage.Sound.mono {s s' : RecordStore} {stage : Stage} (h : stage.Sound s)
    (hkept : ∀ hash, s.contains hash = true → s'.contains hash = true) : stage.Sound s' := by
  intro known r rest c hstage
  obtain ⟨hash, hr, hknown⟩ := h known r rest c hstage
  exact ⟨hash, hr, fun hk => hkept hash (hknown hk)⟩

/-- Who holds nothing has not been overtaken. -/
theorem Stage.not_overtaken_of_not_holds {s : RecordStore} :
    ∀ {stage : Stage}, stage.holds = false → stage.overtaken s = false
  | .reading .., _ => rfl
  | .done _, _ => rfl

/-! ## Schedules -/

namespace Shared

variable {ι : Type} [DecidableEq ι] (read : QueryReader) (options : ι → IngestOptions)

/-- How many records are merged on a schedule that have been counted as new and come too late. -/
def overtakings (shared : Shared ι) : List ι → Nat
  | [] => 0
  | i :: schedule =>
    ((shared.stage i).overtaken shared.store).toNat +
      overtakings (shared.move read options i) schedule

/-- No ingestion moves while another one holds a record. -/
def Exclusive (shared : Shared ι) : List ι → Prop
  | [] => True
  | i :: schedule =>
    (∀ j, j ≠ i → (shared.stage j).holds = false) ∧
      Exclusive (shared.move read options i) schedule

/-- All that the account of a step asks for. -/
structure Sound (shared : Shared ι) : Prop where
  wellKeyed : shared.store.WellKeyed
  stage : ∀ i, (shared.stage i).Sound shared.store

/-- A sum over the stages changes with a step where the step is made. -/
theorem sum_stage_move [Fintype ι] (f : Stage → Nat) (shared : Shared ι) (i : ι) :
    ∑ j, f ((shared.move read options i).stage j) + f (shared.stage i) =
      ∑ j, f (shared.stage j) + f ((shared.move read options i).stage i) := by
  have hothers : ∑ j ∈ Finset.univ.erase i, f ((shared.move read options i).stage j) =
      ∑ j ∈ Finset.univ.erase i, f (shared.stage j) :=
    Finset.sum_congr rfl fun j hj => by
      rw [stage_move_of_ne read options shared (Finset.ne_of_mem_erase hj)]
  rw [← Finset.add_sum_erase Finset.univ _ (Finset.mem_univ i), hothers,
    ← Finset.add_sum_erase Finset.univ (fun j => f (shared.stage j)) (Finset.mem_univ i)]
  omega

variable {read options} {shared : Shared ι}

theorem Sound.contains_move (h : shared.Sound) (i : ι) (hash : String)
    (hc : shared.store.contains hash = true) :
    (shared.move read options i).store.contains hash = true :=
  (move_step read options shared i).contains h.wellKeyed (h.stage i) hash hc

theorem Sound.move (h : shared.Sound) (i : ι) : (shared.move read options i).Sound where
  wellKeyed := (move_step read options shared i).wellKeyed h.wellKeyed (h.stage i)
  stage j := by
    by_cases hj : j = i
    · subst hj
      exact (move_step read options shared j).sound
    · rw [stage_move_of_ne read options shared hj]
      exact (h.stage j).mono fun hash hc => h.contains_move i hash hc

/-- A schedule keeps all hashes of the store. -/
theorem Sound.contains_moves : ∀ (schedule : List ι) {shared : Shared ι}, shared.Sound →
    ∀ hash, shared.store.contains hash = true →
      (shared.moves read options schedule).store.contains hash = true
  | [], _, _, _, hc => hc
  | i :: schedule, _, h, hash, hc =>
    contains_moves schedule (h.move i) hash (h.contains_move i hash hc)

/-- Whom an error has ended before a schedule it has ended behind it. -/
theorem failed_moves : ∀ (schedule : List ι) {shared : Shared ι} {i : ι},
    (shared.stage i).Failed → ((shared.moves read options schedule).stage i).Failed
  | [], _, _, h => h
  | j :: schedule, shared, i, h => by
    refine failed_moves schedule ?_
    by_cases hj : i = j
    · subst hj
      exact (move_step read options shared i).remains_failed h
    · rw [stage_move_of_ne read options shared hj]
      exact h

/-- **The account of a schedule** on which no ingestion fails. -/
theorem Sound.balance_moves [Fintype ι] : ∀ (schedule : List ι) {shared : Shared ι}, shared.Sound →
    (∀ i, ¬ ((shared.moves read options schedule).stage i).Failed) →
    ∑ i, ((shared.moves read options schedule).stage i).counted +
        ∑ i, (shared.stage i).pending + shared.store.size =
      ∑ i, (shared.stage i).counted +
        ∑ i, ((shared.moves read options schedule).stage i).pending +
        (shared.moves read options schedule).store.size +
        shared.overtakings read options schedule
  | [], _, _, _ => rfl
  | i :: schedule, shared, h, hok => by
    have ih := balance_moves schedule (h.move i) hok
    have hstep := (move_step read options shared i).balance h.wellKeyed (h.stage i)
      fun hfailed => hok i (failed_moves schedule hfailed)
    have hcounted := sum_stage_move read options Stage.counted shared i
    have hpending := sum_stage_move read options Stage.pending shared i
    rw [overtakings]
    show ∑ j, (((shared.move read options i).moves read options schedule).stage j).counted + _ + _ =
      _ + ∑ j, (((shared.move read options i).moves read options schedule).stage j).pending +
        ((shared.move read options i).moves read options schedule).store.size + _
    omega

/-- Nobody is overtaken if nobody moves while another holds a record. -/
theorem Exclusive.overtakings_eq : ∀ (schedule : List ι) {shared : Shared ι},
    (∀ i, (shared.stage i).overtaken shared.store = false) → shared.Exclusive read options schedule →
    shared.overtakings read options schedule = 0
  | [], _, _, _ => rfl
  | i :: schedule, shared, hfresh, hexclusive => by
    obtain ⟨halone, hrest⟩ := hexclusive
    have hfresh' (j : ι) : ((shared.move read options i).stage j).overtaken
        (shared.move read options i).store = false := by
      by_cases hj : j = i
      · subst hj
        exact (move_step read options shared j).not_overtaken
      · rw [stage_move_of_ne read options shared hj]
        exact Stage.not_overtaken_of_not_holds (halone j hj)
    rw [overtakings, hfresh i, overtakings_eq schedule hfresh' hrest]
    rfl

end Shared

/-! ## When all have ended -/

/-- **New records of several ingestions.** However the steps are scheduled, when all ingestions have
ended without an error their counts of new records add up to the records that have come into the
store, and to as many more as there were overtakings: merges of a record that was counted as new,
while another ingestion has merged one of that hash since. There are none if no ingestion moves
between the two steps of another one. -/
theorem sum_newRecords (read : QueryReader) {ι : Type} [DecidableEq ι] [Fintype ι]
    (options : ι → IngestOptions) {store : RecordStore} (hstore : store.WellKeyed)
    (logs : ι → Input) (schedule : List ι) (summary : ι → IngestSummary)
    (hdone : ∀ i, ((Shared.start options store logs).moves read options schedule).stage i =
      .done (.ok (summary i))) :
    let start := Shared.start options store logs
    let shared := start.moves read options schedule
    ∑ i, (summary i).newRecords =
      (shared.store.hashesBeyond store).length + start.overtakings read options schedule ∧
    (start.Exclusive read options schedule →
      ∑ i, (summary i).newRecords = (shared.store.hashesBeyond store).length) := by
  intro start shared
  have hsound : start.Sound := ⟨hstore, fun _ _ _ _ _ h => by cases h⟩
  have hok (i : ι) : ¬ (shared.stage i).Failed := by
    rintro ⟨e, he⟩
    rw [hdone] at he
    cases he
  have hbalance := hsound.balance_moves schedule hok
  have hcounted : ∑ i, (shared.stage i).counted = ∑ i, (summary i).newRecords :=
    Finset.sum_congr rfl fun i _ => congrArg Stage.counted (hdone i)
  have hpending : ∑ i, (shared.stage i).pending = 0 :=
    Finset.sum_eq_zero fun i _ => congrArg Stage.pending (hdone i)
  have hstart : ∑ i, (start.stage i).counted = 0 := Finset.sum_eq_zero fun i _ => rfl
  have hstart' : ∑ i, (start.stage i).pending = 0 := Finset.sum_eq_zero fun i _ => rfl
  have hkept : ∀ hash, store.contains hash = true → shared.store.contains hash = true :=
    hsound.contains_moves schedule
  have hnew := length_hashesBeyond hkept
  have hexact : ∑ i, (summary i).newRecords =
      (shared.store.hashesBeyond store).length + start.overtakings read options schedule := by
    rw [hstart, hstart'] at hbalance
    change ∑ i, (shared.stage i).counted + 0 + store.size =
      0 + ∑ i, (shared.stage i).pending + shared.store.size + _ at hbalance
    omega
  refine ⟨hexact, fun hexclusive => ?_⟩
  rw [hexact, hexclusive.overtakings_eq schedule fun _ => rfl]
  rfl

/-- Three ingestions of one query: the first two ask for it before one of them merges it, the third
one moves when both are done. -/
theorem sum_newRecords_three :
    let line := "h - u [01/Jan/2021:00:00:00 +0000] \"GET /?query=ASK HTTP/1.1\" 200 3 \"-\"\n"
    let log : Input := ⟨Utf8.encode line.toList, none⟩
    let options (_ : Fin 3) : IngestOptions := ⟨false, false, none⟩
    let read : QueryReader := fun _ _ => .error "incomplete"
    let start := Shared.start options RecordStore.empty fun _ => log
    let schedule := [0, 1, 0, 1, 0, 1, 2, 2, 2]
    let shared := start.moves read options schedule
    let summary (i : Fin 3) : IngestSummary := ⟨1, 0, 0, 1, if i = 2 then 0 else 1, 0⟩
    RecordStore.empty.WellKeyed ∧ (∀ i, shared.stage i = .done (.ok (summary i))) ∧
      ∑ i, (summary i).newRecords =
        (shared.store.hashesBeyond RecordStore.empty).length +
          start.overtakings read options schedule := by
  intro line log options read start schedule shared summary
  have hresult : ∀ i, (shared.stage i).result? = some (.ok (summary i)) := by decide +kernel
  have hdone (i : Fin 3) : shared.stage i = .done (.ok (summary i)) :=
    Stage.result?_eq_some.mp (hresult i)
  exact ⟨Reachable.empty.wellKeyed, hdone,
    (sum_newRecords read options Reachable.empty.wellKeyed (fun _ => log) schedule summary hdone).1⟩

/-- **A new record that is counted twice.** The counts of new records need not add up to the records
that have come into the store: two ingestions of the same line may both count its query. -/
theorem newRecords_counted_twice :
    let line := "h - u [01/Jan/2021:00:00:00 +0000] \"GET /?query=ASK HTTP/1.1\" 200 3 \"-\"\n"
    let log : Input := ⟨Utf8.encode line.toList, none⟩
    let options (_ : Bool) : IngestOptions := ⟨false, false, none⟩
    let read : QueryReader := fun _ _ => .error "incomplete"
    let shared := (Shared.start options RecordStore.empty fun _ => log).moves read options
      [true, false, true, false, true, false]
    ∃ summary : Bool → IngestSummary, (∀ i, shared.stage i = .done (.ok (summary i))) ∧
      ∑ i, (summary i).newRecords = 2 ∧
      (shared.store.hashesBeyond RecordStore.empty).length = 1 := by
  intro line log options read shared
  have hrun : (∀ i, (shared.stage i).result? = some (.ok ⟨1, 0, 0, 1, 1, 0⟩)) ∧
      (shared.store.hashesBeyond RecordStore.empty).length = 1 := by
    decide +kernel
  exact ⟨fun _ => ⟨1, 0, 0, 1, 1, 0⟩, fun i => Stage.result?_eq_some.mp (hrun.1 i), rfl, hrun.2⟩

end Ingest

end LinkedQueries
