import LinkedQueries.Proofs.Ingest.Steps
import LinkedQueries.Proofs.Lists
import LinkedQueries.Proofs.Store.Named
import Mathlib.Data.List.Induction
import Mathlib.Data.Set.Function

/-!
# Several ingestions on one store

Several ingestions read a log each, with options of their own, and share one store. A schedule says
which of them makes the next step; any schedule can come about. What they merge is a history: each
ingestion has merged its own sightings in order, and still owes the others.

* `Shared` is a store with the stages of the ingestions that share it.
* `Owes` says which sightings an ingestion has still to merge.

Results:
* `Owes.step`: a step leaves the store alone, or merges the first sighting that is owed.
* `told_moves`: what the ingestions have merged and still owe, by induction on the schedule.
* **`shared_exact`**: when all have ended, each sighting is one execution of the record of its query.
-/

namespace LinkedQueries.Ingest

open AccessLog RecordStore

/-! ## Sightings of a log -/

/-- The sightings of queries on the lines that a reader serves, in the order of the lines. -/
def sightingsIn (log : Input) : List (String × RemoteExecution) :=
  sightings ((numbered (served log)).map fun x => (x.1, entryOf x.2))

/-- The sightings of one query. -/
def sightingsOf (query : String) (log : Input) : List RemoteExecution :=
  ((sightingsIn log).filter (·.1 = query)).map (·.2)

/-- Among texts of different fingerprints, the sightings under the hash of one are its own. -/
theorem executionsUnder_sightingsIn {texts : Set String} (hinj : Set.InjOn fingerprint texts)
    {text : String} (htext : text ∈ texts) {log : Input}
    (hlog : ∀ x ∈ sightingsIn log, x.1 ∈ texts) :
    executionsUnder (fingerprint text) (sightingsIn log) = sightingsOf text log := by
  unfold sightingsOf executionsUnder
  refine congrArg (List.map _) (List.filter_congr fun x hx => ?_)
  rw [Bool.eq_iff_iff, decide_eq_true_eq, beq_iff_eq]
  exact ⟨fun h => (hinj htext (hlog x hx) h).symm, fun h => by rw [h]⟩

/-- The sightings on some items, up to the first error. -/
def shown : Items → List (String × RemoteExecution)
  | [] => []
  | (_, .error _) :: _ => []
  | (n, .ok x) :: rest => sightings [(n, x)] ++ shown rest

theorem shown_append (entries : List (Nat × Option Entry)) (rest : Items) :
    shown ((entries.map fun x => (x.1, .ok x.2)) ++ rest) = sightings entries ++ shown rest := by
  induction entries with
  | nil => rfl
  | cons x entries ih =>
    rw [List.map_cons, List.cons_append, shown, ih, ← List.append_assoc, ← sightings_append,
      List.singleton_append]

/-- A lenient reader shows all sightings on the lines that it serves. -/
theorem shown_extractAll (log : Input) :
    shown (numbered (extractAll false log)) = sightingsIn log := by
  have hlines : (served log).map (extractBytes false) =
      (served log).map fun line => .ok (entryOf line) :=
    List.map_congr_left fun line _ => extractBytes_lenient line
  have hnumbered : numbered ((served log).map fun line =>
      (.ok (entryOf line) : Except LogError (Option Entry))) =
      ((numbered (served log)).map fun x => (x.1, entryOf x.2)).map fun x => (x.1, .ok x.2) := by
    rw [numbered_map, List.map_map]
    rfl
  rw [extractAll_eq, hlines]
  cases log.failure with
  | none =>
    have h := shown_append ((numbered (served log)).map fun x => (x.1, entryOf x.2)) []
    rw [Option.map_none, Option.toList_none, List.append_nil, hnumbered]
    rwa [List.append_nil, shown, List.append_nil] at h
  | some failure =>
    rw [Option.map_some, Option.toList_some, numbered_concat, hnumbered, shown_append]
    exact List.append_nil _

/-! ## One step -/

/-- The sightings that an ingestion has still to merge. -/
inductive Owes (read : QueryReader) (options : IngestOptions) :
    Stage → List (String × RemoteExecution) → Prop where
  | reading (items : Items) (c : IngestSummary) : Owes read options (.reading items c) (shown items)
  | holding (known : Bool) (query : String) (execution : RemoteExecution) (items : Items)
      (c : IngestSummary) :
      Owes read options
        (.holding known (sightingRecord read options known query execution) items c)
        ((query, execution) :: shown items)
  | done (result : Except IngestError IngestSummary) : Owes read options (.done result) []

section Records

variable (read : QueryReader) (options : IngestOptions) (known : Bool) (query : String)
  (execution : RemoteExecution)

theorem sightingRecord_hash :
    (sightingRecord read options known query execution).hash = some (fingerprint query) := by
  cases known <;> rfl

theorem sightingRecord_text :
    (sightingRecord read options known query execution).text = some query := by
  cases known <;> rfl

theorem sightingRecord_executions :
    (sightingRecord read options known query execution).remoteExecutions = [execution] := by
  cases known <;> rfl

end Records

variable {read : QueryReader}

/-- **A step** leaves the store alone, or merges the record of the first sighting that is owed. -/
theorem Owes.step {options : IngestOptions} {s s' : RecordStore} (hs : s.WellKeyed)
    {stage stage' : Stage} {owed : List (String × RemoteExecution)}
    (howed : Owes read options stage owed) (h : Step read options s stage s' stage') :
    s' = s ∧ Owes read options stage' owed ∨
    ∃ known query execution rest, owed = (query, execution) :: rest ∧
      Owes read options stage' rest ∧
      Merged s (fingerprint query) (sightingRecord read options known query execution) s' := by
  cases h with
  | ended c => cases howed; exact .inl ⟨rfl, .done _⟩
  | failed n e rest c => cases howed; exact .inl ⟨rfl, .done _⟩
  | passed n x rest c c' none new =>
    cases howed
    rw [shown, none, List.nil_append]
    exact .inl ⟨rfl, .reading rest c'⟩
  | looked n x query execution rest c c' one new =>
    cases howed
    rw [shown, one, List.singleton_append]
    exact .inl ⟨rfl, .holding _ query execution rest c'⟩
  | merged known r rest c s' ok =>
    cases howed with
    | holding _ query execution =>
      obtain ⟨s'', hmerge, hmerged⟩ :=
        merge_spec hs (sightingRecord_hash read options known query execution)
      cases ok.symm.trans hmerge
      exact .inr ⟨known, query, execution, shown rest, rfl, .reading rest _, hmerged⟩
  | refused known r rest c e error =>
    cases howed with
    | holding _ query execution =>
      obtain ⟨s'', hmerge, -⟩ :=
        merge_spec hs (sightingRecord_hash read options known query execution)
      cases error.symm.trans hmerge
  | rested result => cases howed; exact .inl ⟨rfl, .done _⟩

/-! ## Schedules -/

/-- A store, and where those stand that share it. -/
structure Shared (ι : Type) where
  store : RecordStore
  stage : ι → Stage

namespace Shared

variable {ι : Type} [DecidableEq ι] (read : QueryReader) (options : ι → IngestOptions)

/-- Nobody has begun to read. -/
def start (store : RecordStore) (logs : ι → Input) : Shared ι where
  store := store
  stage i := .reading (numbered (extractAll (options i).strict (logs i))) .zero

/-- One of the ingestions makes its next step. -/
def move (shared : Shared ι) (i : ι) : Shared ι where
  store := (advance read (options i) shared.store (shared.stage i)).1
  stage := Function.update shared.stage i (advance read (options i) shared.store (shared.stage i)).2

/-- Who moves makes a step. -/
theorem move_step (shared : Shared ι) (i : ι) :
    Step read (options i) shared.store (shared.stage i) (shared.move read options i).store
      ((shared.move read options i).stage i) := by
  have hstage : (shared.move read options i).stage i =
      (advance read (options i) shared.store (shared.stage i)).2 := Function.update_self ..
  rw [hstage]
  exact advance_step read (options i) shared.store (shared.stage i)

/-- Who does not move stays where it was. -/
theorem stage_move_of_ne (shared : Shared ι) {i j : ι} (h : j ≠ i) :
    (shared.move read options i).stage j = shared.stage j := Function.update_of_ne h ..

/-- The steps of a schedule are made. -/
def moves (shared : Shared ι) (schedule : List ι) : Shared ι :=
  schedule.foldl (move read options) shared

theorem moves_concat (shared : Shared ι) (schedule : List ι) (i : ι) :
    shared.moves read options (schedule ++ [i]) =
      (shared.moves read options schedule).move read options i := by
  unfold moves
  rw [List.foldl_append]
  rfl

/-- All ingestions have ended. -/
def Done (shared : Shared ι) : Prop :=
  ∀ i, (shared.stage i).result?.isSome

/-- What is left for an ingestion shrinks with each of its steps, whatever the others do. -/
theorem cost_moves (shared : Shared ι) (schedule : List ι) (i : ι) :
    ((shared.moves read options schedule).stage i).cost ≤
      (shared.stage i).cost - schedule.count i := by
  induction schedule using List.reverseRecOn with
  | nil => exact Nat.le_refl _
  | append_singleton schedule j ih =>
    rw [moves_concat, List.count_append]
    by_cases h : i = j
    · subst h
      have hstep := (move_step read options (shared.moves read options schedule) i).cost_le
      rw [List.count_singleton_self]
      omega
    · rw [stage_move_of_ne read options _ h, List.count_singleton,
        if_neg (by rw [beq_iff_eq]; exact Ne.symm h)]
      exact ih

/-- Nobody has to wait for others: who has moved often enough has ended. -/
theorem done_moves (store : RecordStore) (logs : ι → Input) {schedule : List ι}
    (h : ∀ i, 2 * (extractAll (options i).strict (logs i)).length < schedule.count i) :
    ((start options store logs).moves read options schedule).Done := by
  intro i
  have hcost := cost_moves read options (start options store logs) schedule i
  have hstart : ((start options store logs).stage i).cost =
      2 * (extractAll (options i).strict (logs i)).length + 1 := by
    show 2 * (numbered _).length + 1 = _
    rw [length_numbered]
  cases hstage : ((start options store logs).moves read options schedule).stage i with
  | done result => rfl
  | reading items c =>
    have := h i
    rw [hstage, hstart, Stage.cost] at hcost
    omega
  | holding known r items c =>
    have := h i
    rw [hstage, hstart, Stage.cost] at hcost
    omega

end Shared

/-! ## The history of a schedule -/

variable {ι : Type} [DecidableEq ι] {options : ι → IngestOptions}

/-- What some ingestions have merged, each its own sightings in order, and what is in the store. -/
structure Told (read : QueryReader) (options : ι → IngestOptions) (store : RecordStore)
    (all : ι → List (String × RemoteExecution)) (shared : Shared ι)
    (history : List (ι × String × RemoteExecution)) : Prop where
  owes : ∀ i, ∃ owed, Owes read (options i) (shared.stage i) owed ∧ own i history ++ owed = all i
  named : shared.store.Named
  text? : ∀ hash, shared.store.text? hash =
    (store.text? hash <|> (history.map (·.2.1)).find? fun query => hash == fingerprint query)
  executions : ∀ hash, shared.store.executions hash =
    store.executions hash ++ executionsUnder hash (history.map (·.2))

theorem told_start {store : RecordStore} (hs : store.Named) (logs : ι → Input) :
    Told read options store (fun i => shown (numbered (extractAll (options i).strict (logs i))))
      (.start options store logs) [] where
  owes _ := ⟨_, .reading _ _, rfl⟩
  named := hs
  text? hash := by simp [Shared.start]
  executions hash := (List.append_nil _).symm

variable {store : RecordStore} {all : ι → List (String × RemoteExecution)} {logs : ι → Input}
  {shared : Shared ι} {history : List (ι × String × RemoteExecution)}

/-- One step more. -/
theorem Told.move (h : Told read options store all shared history) (i : ι) :
    ∃ history', Told read options store all (shared.move read options i) history' := by
  obtain ⟨owed, howed, hall⟩ := h.owes i
  rcases howed.step h.named.wellKeyed (Shared.move_step read options shared i) with
    ⟨hstore, howed'⟩ | ⟨known, query, execution, rest, rfl, hrest, hmerged⟩
  · refine ⟨history, fun j => ?_, hstore ▸ h.named, hstore ▸ h.text?, hstore ▸ h.executions⟩
    by_cases hj : j = i
    · subst hj
      exact ⟨owed, howed', hall⟩
    · rw [Shared.stage_move_of_ne read options _ hj]
      exact h.owes j
  · refine ⟨history ++ [(i, query, execution)], fun j => ?_, ?_, fun hash => ?_, fun hash => ?_⟩
    · rw [own_concat]
      by_cases hj : j = i
      · subst hj
        refine ⟨rest, hrest, ?_⟩
        rw [if_pos rfl, List.append_assoc]
        exact hall
      · rw [Shared.stage_move_of_ne read options _ hj, if_neg (Ne.symm hj), List.append_nil]
        exact h.owes j
    · exact hmerged.named h.named (sightingRecord_text ..) rfl
    · rw [hmerged.text? h.named, h.text?, List.map_append, List.find?_append, sightingRecord_text]
      by_cases hh : hash = fingerprint query <;> cases store.text? hash <;> simp [hh]
    · rw [hmerged.executions, h.executions, sightingRecord_executions]
      unfold executionsUnder
      rw [List.map_append, List.filter_append, List.map_append, List.append_assoc]
      by_cases hh : hash = fingerprint query <;> simp [hh]

/-- **Any schedule.** -/
theorem told_moves (read : QueryReader) (options : ι → IngestOptions) {store : RecordStore}
    (hs : store.Named) (logs : ι → Input) (schedule : List ι) : ∃ history,
      Told read options store (fun i => shown (numbered (extractAll (options i).strict (logs i))))
        ((Shared.start options store logs).moves read options schedule) history := by
  induction schedule using List.reverseRecOn with
  | nil => exact ⟨[], told_start hs logs⟩
  | append_singleton schedule i ih =>
    obtain ⟨history, h⟩ := ih
    rw [Shared.moves_concat]
    exact h.move i

/-! ## When all have ended -/

/-- The texts that a store has, and those that are extracted from some logs. -/
def involved (store : RecordStore) (logs : ι → Input) : Set String :=
  {text | (∃ hash, store.text? hash = some text) ∨ ∃ i, ∃ x ∈ sightingsIn (logs i), x.1 = text}

/-- An ingestion that has ended has merged all that it had to. -/
theorem Told.own_eq (h : Told read options store all shared history) (hdone : shared.Done) (i : ι) :
    own i history = all i := by
  obtain ⟨owed, howed, hall⟩ := h.owes i
  obtain ⟨result, hresult⟩ := Option.isSome_iff_exists.mp (hdone i)
  rw [Stage.result?_eq_some.mp hresult] at howed
  cases howed
  rwa [List.append_nil] at hall

/-- The texts of the records are those that the store had, and those that have been merged. -/
theorem Told.text?_isSome_iff (h : Told read options store all shared history)
    (hown : ∀ i, own i history = all i) (hash : String) :
    (shared.store.text? hash).isSome ↔
      (store.text? hash).isSome ∨ ∃ i, ∃ x ∈ all i, fingerprint x.1 = hash := by
  have hmem : ((history.map (·.2.1)).find? fun query => hash == fingerprint query).isSome ↔
      ∃ i, ∃ x ∈ all i, fingerprint x.1 = hash := by
    rw [List.find?_isSome]
    constructor
    · rintro ⟨_, hm, he⟩
      obtain ⟨⟨i, x⟩, hx, rfl⟩ := List.mem_map.mp hm
      exact ⟨i, x, hown i ▸ mem_own.mpr hx, (beq_iff_eq.mp he).symm⟩
    · rintro ⟨i, x, hx, rfl⟩
      exact ⟨x.1, List.mem_map.mpr ⟨(i, x), mem_own.mp ((hown i).symm ▸ hx), rfl⟩,
        beq_self_eq_true _⟩
  rw [h.text?, ← hmem]
  cases store.text? hash <;> simp

/-- The text of a record is one that the store had or one that has been merged. -/
theorem Told.text?_mem (h : Told read options store (fun i => sightingsIn (logs i)) shared history)
    (hown : ∀ i, own i history = sightingsIn (logs i)) {hash text : String}
    (htext : shared.store.text? hash = some text) : text ∈ involved store logs := by
  rw [h.text?] at htext
  cases hs : store.text? hash with
  | some known =>
    rw [hs] at htext
    cases htext
    exact .inl ⟨hash, hs⟩
  | none =>
    rw [hs] at htext
    obtain ⟨⟨i, x⟩, hx, rfl⟩ := List.mem_map.mp (List.mem_of_find?_eq_some htext)
    exact .inr ⟨i, x, hown i ▸ mem_own.mpr hx, rfl⟩

/-- Each text that is involved is the text of the record under its fingerprint. -/
theorem Told.text?_involved
    (h : Told read options store (fun i => sightingsIn (logs i)) shared history)
    (hstore : store.Named) (hown : ∀ i, own i history = sightingsIn (logs i))
    (hinj : Set.InjOn fingerprint (involved store logs)) {text : String}
    (htext : text ∈ involved store logs) :
    shared.store.text? (fingerprint text) = some text := by
  have hsome : (shared.store.text? (fingerprint text)).isSome := by
    rw [h.text?_isSome_iff hown]
    rcases htext with ⟨hash, hs⟩ | ⟨i, x, hx, rfl⟩
    · rw [hstore.fingerprint_eq hs, hs]
      exact .inl rfl
    · exact .inr ⟨i, x, hx, rfl⟩
  obtain ⟨found, hfound⟩ := Option.isSome_iff_exists.mp hsome
  obtain rfl : found = text :=
    hinj (h.text?_mem hown hfound) htext (h.named.fingerprint_eq hfound)
  exact hfound

/-- **No sighting is lost or counted twice**, whatever the schedule is. Lenient ingestions, each of a
log of its own, share a store whose records are named by their texts, and no two texts that are
involved have one fingerprint. Each ingestion ends once it has made enough steps. When all have
ended, the keys of the store are those it had and the hashes of all queries in the logs; to the
record of each text the sightings of it have been added, mixed from those of the logs in the order
of their lines; and all records are still named by their texts. -/
theorem shared_exact (read : QueryReader) {ι : Type} [DecidableEq ι] (options : ι → IngestOptions)
    (hlenient : ∀ i, (options i).strict = false) {store : RecordStore} (hstore : store.Named)
    (logs : ι → Input) (hinj : Set.InjOn fingerprint (involved store logs)) (schedule : List ι) :
    let shared := (Shared.start options store logs).moves read options schedule
    ((∀ i, 2 * (extractAll false (logs i)).length < schedule.count i) → shared.Done) ∧
    (shared.Done →
      (∀ hash, shared.store.contains hash ↔
        store.contains hash ∨ ∃ i, ∃ x ∈ sightingsIn (logs i), fingerprint x.1 = hash) ∧
      (∀ text ∈ involved store logs, ∃ r new,
        shared.store.get? (fingerprint text) = some r ∧ r.text = some text ∧
        r.remoteExecutions = store.executions (fingerprint text) ++ new ∧
        Shuffle (fun i => sightingsOf text (logs i)) new) ∧
      shared.store.Named) := by
  intro shared
  have hall : (fun i => shown (numbered (extractAll (options i).strict (logs i)))) =
      fun i => sightingsIn (logs i) := by
    funext i
    rw [hlenient i, shown_extractAll]
  obtain ⟨history, htold⟩ := told_moves read options hstore logs schedule
  rw [hall] at htold
  refine ⟨fun hmoved => Shared.done_moves read options store logs fun i => ?_, fun hdone => ?_⟩
  · rw [hlenient i]
    exact hmoved i
  have hown : ∀ i, own i history = sightingsIn (logs i) := htold.own_eq hdone
  refine ⟨fun hash => ?_, fun text htext => ?_, htold.named⟩
  · rw [htold.named.contains_eq, hstore.contains_eq]
    exact htold.text?_isSome_iff hown hash
  · obtain ⟨r, hr, hrtext⟩ :=
      Option.bind_eq_some_iff.mp (htold.text?_involved hstore hown hinj htext)
    refine ⟨r, _, hr, hrtext, (executions_of_get? hr).symm.trans (htold.executions _), ?_⟩
    have hparts : (fun i => sightingsOf text (logs i)) =
        fun i => executionsUnder (fingerprint text) (own i history) := by
      funext i
      rw [hown, executionsUnder_sightingsIn hinj htext fun x hx => .inr ⟨i, x, hx, rfl⟩]
    rw [hparts]
    exact shuffle_filter _ _ history

/-- Two logs with one query that is new to the store, and one of them with a query that it has: both
ingestions ask for the new query before one of them merges it. -/
theorem shared_exact_both_first :
    let line (host query : String) :=
      host.toList ++ " - u [01/Jan/2021:00:00:00 +0000] \"GET /?query=".toList ++ query.toList ++
        " HTTP/1.1\" 200 3 \"-\"\n".toList
    let logs : Bool → Input
      | true => ⟨Utf8.encode (line "h" "ASK" ++ "x\n".toList ++ line "h" "SELECT"), none⟩
      | false => ⟨Utf8.encode (line "k" "ASK"), none⟩
    let options (i : Bool) : IngestOptions := ⟨false, i, none⟩
    let read : QueryReader := fun _ _ => .error "incomplete"
    let execution (n : Nat) (host query : String) : RemoteExecution :=
      ⟨some n, host, "u", some ⟨1609459200, 0⟩, some "GET", some ("/?query=" ++ query),
        some "HTTP/1.1", some 200, some 3, some "-", none, []⟩
    let schedule := [true, false, true, false, true, true, false, true, true, true, true]
    ∃ store, RecordStore.empty.merge (QueryRecord.ofText "SELECT") = .ok store ∧
      let shared := (Shared.start options store logs).moves read options schedule
      shared.Done ∧ shared.store.contains (fingerprint "ASK") ∧ shared.store.Named ∧
      ∃ r new, shared.store.get? (fingerprint "ASK") = some r ∧ r.text = some "ASK" ∧
        r.remoteExecutions = new ∧
        Shuffle (fun i => [execution 1 (bif i then "h" else "k") "ASK"]) new := by
  intro line logs options read execution schedule
  have hhashes : fingerprint "ASK" ≠ fingerprint "SELECT" := by decide +kernel
  obtain ⟨hsightings, hmoved⟩ : (∀ i, sightingsIn (logs i) =
      bif i then [("ASK", execution 1 "h" "ASK"), ("SELECT", execution 3 "h" "SELECT")]
      else [("ASK", execution 1 "k" "ASK")]) ∧
      ∀ i, 2 * (extractAll false (logs i)).length < schedule.count i := by
    decide +kernel
  obtain ⟨store, hmerge, hmerged⟩ :=
    merge_spec named_empty.wellKeyed (r := QueryRecord.ofText "SELECT") rfl
  have hstore : store.Named := hmerged.named named_empty rfl rfl
  have htexts (hash : String) :
      store.text? hash = if hash = fingerprint "SELECT" then some "SELECT" else none := by
    have hnone : RecordStore.empty.text? hash = none := rfl
    have hselect : (QueryRecord.ofText "SELECT").text = some "SELECT" := rfl
    rw [hmerged.text? named_empty, hnone, hselect, Option.orElse_eq_orElse, Option.orElse_eq_or,
      Option.none_or]
  have hinvolved : ∀ text ∈ involved store logs, text = "ASK" ∨ text = "SELECT" := by
    rintro text (⟨hash, ht⟩ | ⟨i, x, hx, rfl⟩)
    · rw [htexts] at ht
      exact .inr (Option.some.inj (Option.ite_none_right_eq_some.mp ht).2).symm
    · rw [hsightings] at hx
      cases i <;> simp only [cond_true, cond_false, List.mem_cons, List.not_mem_nil, or_false] at hx
      · exact .inl (congrArg Prod.fst hx)
      · exact hx.imp (congrArg Prod.fst) (congrArg Prod.fst)
  have hinj : Set.InjOn fingerprint (involved store logs) :=
    (Set.injOn_pair.mpr fun h => absurd h hhashes).mono hinvolved
  have hask : ∃ i, ∃ x ∈ sightingsIn (logs i), x.1 = "ASK" :=
    ⟨false, ("ASK", execution 1 "k" "ASK"), by simp [hsightings false], rfl⟩
  obtain ⟨hends, hexact⟩ :=
    shared_exact read options (fun _ => rfl) hstore logs hinj schedule
  have hdone := hends hmoved
  obtain ⟨hcontains, hrecords, hnamed⟩ := hexact hdone
  obtain ⟨r, new, hr, htext, hexecutions, hshuffle⟩ := hrecords "ASK" (.inr hask)
  have hnew : store.executions (fingerprint "ASK") = [] :=
    (hmerged.executions (fingerprint "ASK")).trans (by rw [if_neg hhashes]; rfl)
  have hparts : (fun i => sightingsOf "ASK" (logs i)) =
      fun i => [execution 1 (bif i then "h" else "k") "ASK"] := by
    funext i
    unfold sightingsOf
    rw [hsightings]
    revert i
    decide +kernel
  rw [hnew, List.nil_append] at hexecutions
  rw [hparts] at hshuffle
  obtain ⟨i, x, hx, hquery⟩ := hask
  exact ⟨store, hmerge, hdone, (hcontains _).mpr (.inr ⟨i, x, hx, congrArg fingerprint hquery⟩),
    hnamed, r, new, hr, htext, hexecutions, hshuffle⟩

end LinkedQueries.Ingest
