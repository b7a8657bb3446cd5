import LinkedQueries.Proofs.RecordStream.Relabelling
import LinkedQueries.Rdf.Reader
import LinkedQueries.Total
import Mathlib.Logic.Equiv.Basic

/-!
# Several parses of one source

A source may be parsed again at any time. Each parse has a stream of its own; the streams can be
polled and dropped in any order, and each opens the source for itself. What a source serves and
which labels its reader makes up depend on how often it has been opened before.

* `session` is what has become of all parses after some calls.

Results:
* `poll_congr`: a stream that has been polled does not turn to its source again.
* `session_lived`: however the calls are mixed, each parse is that of a stream on its own, by
  induction on the calls.
* **`session_lifeCycle`**: the life of each parse, and what two parses of one source have in common.
-/

namespace LinkedQueries.RecordStream

/-- What can be done with a source: begin to parse it, and poll or drop the stream of a parse. -/
inductive Call where
  | parse
  | poll (i : Nat)
  | drop (i : Nat)

/-- A parse whose stream has not been polled. -/
def Parse.start : Parse := ⟨.start, [], false⟩

/-- The parse when its stream is polled. A stream that has been dropped cannot be polled. -/
def Parse.poll (read : StatementReader) (options : StreamOptions) (source : Except Failure Input)
    (p : Parse) : Parse :=
  if p.isDropped then p
  else
    let (stream, answer) := RecordStream.poll read options source p.stream
    ⟨stream, p.answers ++ [answer], false⟩

/-- The parse when its stream is dropped. -/
def Parse.drop (p : Parse) : Parse :=
  if p.isDropped then p else { p with stream := p.stream.drop, isDropped := true }

/-- How often the source of some parses has been opened. -/
def opens (parses : List Parse) : Nat :=
  total (parses.map (·.stream.opened))

section Session

variable (read : Nat → StatementReader) (options : StreamOptions)
  (source : Nat → Except Failure Input)

/-- One call. -/
def call (parses : List Parse) : Call → List Parse
  | .parse => parses ++ [.start]
  | .poll i => parses.modify i (Parse.poll (read (opens parses)) options (source (opens parses)))
  | .drop i => parses.modify i Parse.drop

/-- All parses after some calls. -/
def session (calls : List Call) : List Parse :=
  calls.foldl (call read options source) []

/-- The parse is that of a stream that some opening of the source has been for. -/
def Lived (p : Parse) : Prop :=
  ∃ k polls, p = parseAfter (read k) options (source k) polls p.isDropped

variable {read options source}

/-! ## One call -/

/-- A stream that has been polled before does not turn to its source again. -/
theorem poll_congr {s : Stream} (h : s.stage ≠ .pending) (read read' : StatementReader)
    (source source' : Except Failure Input) :
    poll read options source s = poll read' options source' s := by
  unfold poll
  cases hs : s.stage with
  | pending => exact absurd hs h
  | reading ahead events => rfl
  | done => rfl

theorem Parse.poll_congr {p : Parse} (h : p.stream.stage ≠ .pending)
    (read read' : StatementReader) (source source' : Except Failure Input) :
    p.poll read options source = p.poll read' options source' := by
  unfold Parse.poll
  rw [RecordStream.poll_congr h read read' source source']

theorem lived_start : Lived read options source .start :=
  ⟨0, 0, rfl⟩

theorem parseAfter_poll (read : StatementReader) (source : Except Failure Input) (polls : Nat) :
    (parseAfter read options source polls false).poll read options source =
      parseAfter read options source (polls + 1) false := by
  unfold Parse.poll parseAfter
  rw [answers_succ]
  rfl

theorem Lived.poll {p : Parse} (h : Lived read options source p) (k : Nat) :
    Lived read options source (p.poll (read k) options (source k)) := by
  obtain ⟨k₀, polls, hp⟩ := h
  cases hd : p.isDropped with
  | true =>
    rw [Parse.poll, if_pos hd]
    exact ⟨k₀, polls, hp⟩
  | false =>
    rw [hd] at hp
    cases polls with
    | zero =>
      -- the first poll opens the source
      have hp' : p = parseAfter (read k) options (source k) 0 false := hp
      rw [hp', parseAfter_poll]
      exact ⟨k, 1, rfl⟩
    | succ n =>
      have hstage : p.stream.stage ≠ .pending := by
        rw [hp]
        exact (afterPolls_step (read k₀) options (source k₀) n).not_pending
      rw [Parse.poll_congr hstage _ (read k₀) _ (source k₀), hp, parseAfter_poll]
      exact ⟨k₀, n + 2, rfl⟩

theorem Lived.drop {p : Parse} (h : Lived read options source p) :
    Lived read options source p.drop := by
  obtain ⟨k, polls, hp⟩ := h
  cases hd : p.isDropped with
  | true =>
    rw [Parse.drop, if_pos hd]
    exact ⟨k, polls, hp⟩
  | false =>
    rw [hd] at hp
    rw [hp]
    exact ⟨k, polls, rfl⟩

theorem forall_mem_modify {α : Type} {q : α → Prop} {f : α → α} (hf : ∀ x, q x → q (f x)) :
    ∀ {xs : List α} (i : Nat), (∀ x ∈ xs, q x) → ∀ x ∈ xs.modify i f, q x
  | [], i, _ => by simp
  | x :: xs, 0, h => by
    obtain ⟨hx, hxs⟩ := List.forall_mem_cons.mp h
    exact List.forall_mem_cons.mpr ⟨hf x hx, hxs⟩
  | x :: xs, i + 1, h => by
    obtain ⟨hx, hxs⟩ := List.forall_mem_cons.mp h
    exact List.forall_mem_cons.mpr ⟨hx, forall_mem_modify hf i hxs⟩

/-- **One call** lets each parse be that of a stream on its own. -/
theorem call_lived {parses : List Parse} (h : ∀ p ∈ parses, Lived read options source p) :
    ∀ c : Call, ∀ p ∈ call read options source parses c, Lived read options source p
  | .parse => by
    intro p hp
    rcases List.mem_append.mp hp with hp | hp
    · exact h p hp
    · exact List.mem_singleton.mp hp ▸ lived_start
  | .poll i => forall_mem_modify (fun _ hp => hp.poll (opens parses)) i h
  | .drop i => forall_mem_modify (fun _ hp => hp.drop) i h

theorem session_lived (calls : List Call) :
    ∀ p ∈ session read options source calls, Lived read options source p := by
  have hfold : ∀ (calls : List Call) {parses : List Parse},
      (∀ p ∈ parses, Lived read options source p) →
      ∀ p ∈ calls.foldl (call read options source) parses, Lived read options source p := by
    intro calls
    induction calls with
    | nil => exact id
    | cons c calls ih => exact fun h => ih (call_lived h c)
  exact hfold calls fun p hp => absurd hp List.not_mem_nil

/-! ## Two parses -/

/-- The events of two readings are the same up to labels that have been made up. -/
def AgreeUpTo (generated : String → Prop) (events events' : List ReadEvent) : Prop :=
  ∃ ρ : String → String, ρ.Injective ∧ (∀ l, ¬ generated l → ρ l = l) ∧
    events' = events.map (·.relabel ρ)

end Session

/-- **The life of record streams**, whatever the options, the source and the reader are. Each parse
that is dropped or not after any number of polls has the life of one (`LifeCycle`). However parses
of one source are mixed, each is that of a stream on its own; and if the source serves the same each
time and its readings differ in made-up labels at most, what any two of them have been answered so
far is the same from the beginning on, up to such labels. -/
theorem session_lifeCycle (options : StreamOptions) :
    (∀ (read : StatementReader) (source : Except Failure Input) (polls : Nat) (isDropped : Bool),
      LifeCycle options source (parseAfter read options source polls isDropped)) ∧
    ∀ (read : Nat → StatementReader) (source : Nat → Except Failure Input) (calls : List Call),
      (∀ p ∈ session read options source calls, ∃ k polls,
        p = parseAfter (read k) options (source k) polls p.isDropped) ∧
      ∀ (input : Input) (generated : String → Prop), (∀ k, source k = .ok input) →
        (∀ k k', AgreeUpTo generated (read k options.format options.base input)
          (read k' options.format options.base input)) →
        ∀ p ∈ session read options source calls, ∀ p' ∈ session read options source calls,
          ∃ ρ : String → String, ρ.Injective ∧ (∀ l, ¬ generated l → ρ l = l) ∧
            ∀ (n : Nat) a a', p.answers[n]? = some a → p'.answers[n]? = some a' →
              a' = relabelled ρ a := by
  refine ⟨fun read source => parseAfter_lifeCycle read options source, fun read source calls =>
    ⟨session_lived calls, fun input generated hsource hread p hp p' hp' => ?_⟩⟩
  obtain ⟨k, polls, hk⟩ := session_lived calls p hp
  obtain ⟨k', polls', hk'⟩ := session_lived calls p' hp'
  obtain ⟨ρ, hρ, hfixed, hevents⟩ := hread k k'
  refine ⟨ρ, hρ, hfixed, fun n a a' ha ha' => ?_⟩
  rw [hk, hsource] at ha
  rw [hk', hsource] at ha'
  rw [eq_answer_of_getElem? ha, eq_answer_of_getElem? ha', answer_relabel hρ hevents]

/-- Two parses of a text with an anonymous blank node. The second one is read beyond its end before
the first one is dropped; both let go of their readers and give one record, up to a made-up
label. -/
theorem session_lifeCycle_anonymous :
    let input : Input := ⟨Utf8.encode "[] <x:p> <x:o> .".toList, none⟩
    let read (k : Nat) : StatementReader := Rdf.read (k % 2)
    let options : StreamOptions := ⟨.turtle, none, false⟩
    let calls : List Call := [.parse, .parse, .poll 1, .poll 1, .poll 0, .drop 0, .poll 1]
    let p := parseAfter (read 1) options (.ok input) 1 true
    let p' := parseAfter (read 0) options (.ok input) 3 false
    session read options (fun _ => .ok input) calls = [p, p'] ∧
    p.stream.dropped = p.stream.opened ∧ p'.stream.dropped = p'.stream.opened ∧
    p.answers[0]? ≠ p'.answers[0]? ∧
    ∃ ρ : String → String, ρ.Injective ∧ (∀ l, ¬ (∃ text n, l = freshLabel text n) → ρ l = l) ∧
      p'.answers[0]? = p.answers[0]?.map (relabelled ρ) := by
  intro input read options calls p p'
  have hsession : session read options (fun _ => .ok input) calls = [p, p'] := by decide +kernel
  obtain ⟨hlife, hmixed⟩ := session_lifeCycle options
  refine ⟨hsession, (hlife (read 1) (.ok input) 1 true).released input rfl (.inl rfl),
    (hlife (read 0) (.ok input) 3 false).released input rfl (.inr ⟨none, ?_, nofun⟩), ?_, ?_⟩
  · decide +kernel
  · decide +kernel
  · let label (k : Nat) : String := freshLabel (textNumber k input.bytes) 0
    have hread : ∀ k < 2, ∀ k' < 2, Rdf.read k' .turtle none input =
        (Rdf.read k .turtle none input).map (·.relabel (Equiv.swap (label k) (label k'))) := by
      decide +kernel
    obtain ⟨-, hagree⟩ := hmixed read (fun _ => .ok input) calls
    obtain ⟨ρ, hρ, hfixed, hsame⟩ := hagree input (fun l => ∃ text n, l = freshLabel text n)
      (fun _ => rfl) (fun k k' => ⟨Equiv.swap (label (k % 2)) (label (k' % 2)),
        Equiv.injective _, fun l hl => Equiv.swap_apply_of_ne_of_ne (fun h => hl ⟨_, _, h⟩)
          fun h => hl ⟨_, _, h⟩, hread _ (Nat.mod_lt k Nat.two_pos) _ (Nat.mod_lt k' Nat.two_pos)⟩)
      p (hsession ▸ List.mem_cons_self) p' (hsession ▸ List.mem_cons_of_mem _ List.mem_cons_self)
    exact ⟨ρ, hρ, hfixed, congrArg some (hsame 0 _ _ rfl rfl)⟩

end LinkedQueries.RecordStream
