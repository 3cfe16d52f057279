import Mathlib.Data.List.Induction
import Waterfall.Search.Debouncer

/-!
# What a debouncer sends

Inputs, questions whether something is to be sent, and cancels come in any order and at any instants, also
at instants before earlier ones. A run is any list of such events, and what it shows is the list of its
steps, each event with what it gave back.

Three kinds of steps count: inputs, cancels and questions that were answered with a query. The last step
that counts decides alone what the next question finds (`pending_run`): the query of an input that nothing
happened to since, and nothing in any other case. The state enters the statements only there; that each
input is sent once at most, and not at all once it is replaced or dropped, is read off the steps.
-/

namespace Waterfall

namespace Debouncer

/-! ## Events and steps -/

inductive Event where
  | input (query : String) (now : Int)
  /-- Asks for the query to send. -/
  | ready (now : Int)
  | cancel
  deriving DecidableEq, Repr

/-- An event and the query that it gave back. -/
structure Step where
  event : Event
  reply : Option String
  deriving DecidableEq, Repr

/-- The debouncer before its first event. -/
def start (delay : Int) : Debouncer := { delay }

def handle (d : Debouncer) : Event → Option String × Debouncer
  | .input query now => (none, d.input query now)
  | .ready now => d.ready now
  | .cancel => (none, d.cancel)

/-- The steps that some events make, one after the other, and where they lead. -/
def run : Debouncer → List Event → List Step × Debouncer
  | d, [] => ([], d)
  | d, e :: rest => (⟨e, (d.handle e).1⟩ :: (run (d.handle e).2 rest).1, (run (d.handle e).2 rest).2)

theorem run_append (d : Debouncer) (before after : List Event) :
    d.run (before ++ after) =
      ((d.run before).1 ++ ((d.run before).2.run after).1, ((d.run before).2.run after).2) := by
  induction before generalizing d with
  | nil => rfl
  | cons e rest ih => simp only [List.cons_append, run, ih]

theorem run_concat (d : Debouncer) (before : List Event) (e : Event) :
    d.run (before ++ [e]) =
      ((d.run before).1 ++ [⟨e, ((d.run before).2.handle e).1⟩], ((d.run before).2.handle e).2) :=
  run_append d before [e]

/-- There is one step for each event. -/
theorem map_event_run (d : Debouncer) (events : List Event) :
    (d.run events).1.map (·.event) = events := by
  induction events generalizing d with
  | nil => rfl
  | cons e rest ih => simp only [run, List.map_cons, ih]

/-- The first steps are those of the first events. -/
theorem take_run (d : Debouncer) (events : List Event) (place : Nat) :
    (d.run events).1.take place = (d.run (events.take place)).1 := by
  induction events generalizing d place with
  | nil => simp [run]
  | cons e rest ih =>
    cases place with
    | zero => rfl
    | succ place => simp only [run, List.take_succ_cons, ih]

/-! ## The last step that counts -/

/-- Whether a later question may be answered otherwise after the step. -/
def Step.counts : Step → Bool
  | ⟨.input _ _, _⟩ => true
  | ⟨.ready _, reply⟩ => reply.isSome
  | ⟨.cancel, _⟩ => true

/-- The event of the last step that counts. -/
def last? (steps : List Step) : Option Event := (steps.filter Step.counts).getLast?.map (·.event)

theorem last?_concat (steps : List Step) (s : Step) :
    last? (steps ++ [s]) = if s.counts then some s.event else last? steps := by
  rw [last?, List.filter_append]
  by_cases h : s.counts = true <;> simp [h, last?]

/-- What waits when this event was the last one that counts. -/
def Event.pending? : Event → Option PendingQuery
  | .input query now => some ⟨now, query⟩
  | _ => none

theorem Event.pending?_eq_some_iff {e : Event} {p : PendingQuery} :
    e.pending? = some p ↔ e = .input p.query p.since := by
  cases e with
  | input query now =>
    simp only [pending?, Option.some.injEq, input.injEq]
    constructor
    · rintro rfl
      exact ⟨rfl, rfl⟩
    · rintro ⟨rfl, rfl⟩
      rfl
  | ready now => simp [pending?]
  | cancel => simp [pending?]

/-- A question is answered with the query that waits, which then waits no more, or changes nothing. -/
theorem ready_cases (d : Debouncer) (now : Int) :
    (∃ p, d.pending = some p ∧ d.ready now = (some p.query, d.cancel)) ∨ d.ready now = (none, d) := by
  unfold ready
  split
  · next p hp =>
    split
    · exact .inr rfl
    · exact .inl ⟨p, hp, rfl⟩
  · exact .inr rfl

theorem delay_handle (d : Debouncer) (e : Event) : (d.handle e).2.delay = d.delay := by
  cases e with
  | input query now => rfl
  | cancel => rfl
  | ready now => rcases d.ready_cases now with ⟨p, -, h⟩ | h <;> simp [handle, h, Debouncer.cancel]

/-- A step that counts decides what waits, and any other leaves it. -/
theorem pending_handle (d : Debouncer) (e : Event) :
    (d.handle e).2.pending =
      if Step.counts ⟨e, (d.handle e).1⟩ then e.pending? else d.pending := by
  cases e with
  | input query now => rfl
  | cancel => rfl
  | ready now =>
    rcases d.ready_cases now with ⟨p, -, h⟩ | h <;>
      simp [handle, h, Step.counts, Event.pending?, Debouncer.cancel]

theorem delay_run (d : Debouncer) (events : List Event) : (d.run events).2.delay = d.delay := by
  induction events generalizing d with
  | nil => rfl
  | cons e rest ih => rw [run, ih, delay_handle]

/-- What waits after a run is said by the last step that counts. -/
theorem pending_run (delay : Int) (events : List Event) :
    ((start delay).run events).2.pending = (last? ((start delay).run events).1).bind Event.pending? := by
  induction events using List.reverseRecOn with
  | nil => rfl
  | append_singleton before e ih =>
    rw [run_concat, last?_concat, pending_handle]
    split
    · rfl
    · exact ih

/-- A question is answered with the query of an input, if that was the last event that counts and the
delay has gone by since. -/
theorem fst_ready_run_eq_some_iff (delay : Int) (before : List Event) (now : Int) (query : String) :
    (((start delay).run before).2.ready now).1 = some query ↔
      ∃ since, last? ((start delay).run before).1 = some (.input query since) ∧
        delay ≤ max 0 (now - since) := by
  rw [fst_ready_eq_some_iff, pending_run, delay_run]
  constructor
  · rintro ⟨p, hp, rfl, hquiet⟩
    obtain ⟨e, he, hpending⟩ := Option.bind_eq_some_iff.mp hp
    obtain rfl := Event.pending?_eq_some_iff.mp hpending
    exact ⟨p.since, he, hquiet⟩
  · rintro ⟨since, hlast, hquiet⟩
    exact ⟨⟨since, query⟩, by rw [hlast]; rfl, rfl, hquiet⟩

/-- The step in a place, with the steps before it. -/
theorem getElem?_run (d : Debouncer) {events : List Event} {place : Nat} {e : Event}
    (he : events[place]? = some e) :
    (d.run events).1[place]? = some ⟨e, ((d.run (events.take place)).2.handle e).1⟩ := by
  induction events generalizing d place with
  | nil => simp at he
  | cons first rest ih =>
    cases place with
    | zero =>
      obtain rfl : first = e := by simpa using he
      rfl
    | succ place => exact ih (d.handle first).2 (by simpa using he)

theorem event_of_getElem?_run {d : Debouncer} {events : List Event} {place : Nat} {s : Step}
    (h : (d.run events).1[place]? = some s) : events[place]? = some s.event := by
  rw [← map_event_run d events, List.getElem?_map, h]
  rfl

/-! ## Which input is sent -/

/-- The last event that counts stands somewhere, and no later step counts. -/
theorem exists_place_of_last? {steps : List Step} {e : Event} (h : last? steps = some e) :
    ∃ (i : Nat) (reply : Option String), steps[i]? = some ⟨e, reply⟩ ∧
      ∀ (k : Nat) (s : Step), i < k → steps[k]? = some s → s.counts = false := by
  induction steps using List.reverseRecOn with
  | nil => cases h
  | append_singleton steps last ih =>
    rw [last?_concat] at h
    split at h
    · obtain rfl := Option.some.inj h
      refine ⟨steps.length, last.reply, by simp, ?_⟩
      intro k s hk hs
      have hbound := (List.getElem?_eq_some_iff.mp hs).1
      simp only [List.length_append, List.length_singleton] at hbound
      omega
    · next hlast =>
      obtain ⟨i, reply, hi, hquiet⟩ := ih h
      refine ⟨i, reply, ?_, ?_⟩
      · rwa [List.getElem?_append_left (List.getElem?_eq_some_iff.mp hi).1]
      · intro k s hk hs
        rcases Nat.lt_or_ge k steps.length with hlt | hge
        · exact hquiet k s hk (by rwa [List.getElem?_append_left hlt] at hs)
        · rw [List.getElem?_append_right hge, List.getElem?_singleton] at hs
          split at hs
          · obtain rfl := Option.some.inj hs
            exact Bool.eq_false_iff.mpr hlast
          · cases hs

variable {delay : Int} {events : List Event}

/-- A query that is given back is that of an input, and no step since that input counts. -/
theorem exists_input_of_sent {j : Nat} {now : Int} {query : String}
    (h : ((start delay).run events).1[j]? = some ⟨.ready now, some query⟩) :
    ∃ i since, i < j ∧ events[i]? = some (.input query since) ∧ delay ≤ max 0 (now - since) ∧
      ∀ k s, i < k → k < j → ((start delay).run events).1[k]? = some s → s.counts = false := by
  have hevent : events[j]? = some (.ready now) := event_of_getElem?_run h
  rw [getElem?_run _ hevent] at h
  have hreply : (((start delay).run (events.take j)).2.ready now).1 = some query :=
    congrArg Step.reply (Option.some.inj h)
  obtain ⟨since, hlast, hdelay⟩ := (fst_ready_run_eq_some_iff ..).mp hreply
  obtain ⟨i, reply, hi, hquiet⟩ := exists_place_of_last? hlast
  have hinput := event_of_getElem?_run hi
  have hij : i < j := by
    have hbound := (List.getElem?_eq_some_iff.mp hinput).1
    rw [List.length_take] at hbound
    omega
  refine ⟨i, since, hij, by rwa [List.getElem?_take_of_lt hij] at hinput, hdelay, ?_⟩
  intro k s hk hkj hs
  exact hquiet k s hk (by rwa [← take_run, List.getElem?_take_of_lt hkj])

/-- The question in place `j` sends the input in place `i`, which is the last one before it. -/
structure Fires (delay : Int) (events : List Event) (i j : Nat) : Prop where
  before : i < j
  input : ∃ query since, events[i]? = some (.input query since)
  sent : ∃ now query, ((start delay).run events).1[j]? = some ⟨.ready now, some query⟩
  latest : ∀ k, i < k → k < j → ∀ query since, events[k]? ≠ some (.input query since)

/-- Nothing that counts lies between an input and the question that sends it. -/
theorem Fires.counts_eq_false {i j : Nat} (h : Fires delay events i j) {k : Nat} {s : Step} (hik : i < k)
    (hkj : k < j) (hs : ((start delay).run events).1[k]? = some s) : s.counts = false := by
  obtain ⟨now, query, hsent⟩ := h.sent
  obtain ⟨i', since, hbefore, hinput, -, hquiet⟩ := exists_input_of_sent hsent
  -- The input that was found is the one in place `i`: neither can come after the other.
  have hle : i' ≤ i := by
    by_contra hlt
    exact h.latest i' (Nat.not_le.mp hlt) hbefore query since hinput
  exact hquiet k s (Nat.lt_of_le_of_lt hle hik) hkj hs

/-! ## Main statement -/

/-- What a run of events sends when every input has to be quiet for the delay. -/
structure SendsQuietInputs (delay : Int) (events : List Event) : Prop where
  /-- Wherever a question is asked, it is answered with a query if and only if the last of the inputs,
  the cancels and the answered questions before it is an input, of that query, and is long enough ago. -/
  answered : ∀ j now, events[j]? = some (.ready now) →
    ∃ reply, ((start delay).run events).1[j]? = some ⟨.ready now, reply⟩ ∧
      ∀ query, reply = some query ↔
        ∃ since, last? (((start delay).run events).1.take j) = some (.input query since) ∧
          delay ≤ max 0 (now - since)
  /-- Every query that is given back is that of the input it sends. -/
  fired : ∀ j now query, ((start delay).run events).1[j]? = some ⟨.ready now, some query⟩ →
    ∃ i since, events[i]? = some (.input query since) ∧ Fires delay events i j
  once : ∀ i j j', Fires delay events i j → Fires delay events i j' → j = j'
  /-- An input that another input or a cancel follows before it is sent is never sent. -/
  dropped : ∀ i k e, i < k → events[k]? = some e → (∀ now, e ≠ .ready now) →
    (∀ j, j < k → ¬ Fires delay events i j) → ∀ j, ¬ Fires delay events i j
  /-- A question without an answer changes nothing. -/
  unchanged : ∀ before now, (((start delay).run before).2.ready now).1 = none →
    ((start delay).run (before ++ [.ready now])).2 = ((start delay).run before).2

/-- **An input is sent once it has been quiet for the delay, once only, and not if it was replaced or
dropped**, in whatever order and at whatever instants inputs, questions and cancels come. -/
theorem sendsQuietInputs_run (delay : Int) (events : List Event) : SendsQuietInputs delay events := by
  refine ⟨?answered, ?fired, ?once, ?dropped, ?unchanged⟩
  case answered =>
    intro j now hj
    refine ⟨_, getElem?_run (start delay) hj, ?_⟩
    intro query
    rw [take_run]
    exact fst_ready_run_eq_some_iff ..
  case fired =>
    intro j now query hsent
    obtain ⟨i, since, hij, hinput, -, hquiet⟩ := exists_input_of_sent hsent
    refine ⟨i, since, hinput, hij, ⟨query, since, hinput⟩, ⟨now, query, hsent⟩, ?_⟩
    intro k hik hkj query' since' hk
    have hcounts := hquiet k _ hik hkj (getElem?_run (start delay) hk)
    simp [Step.counts] at hcounts
  case once =>
    intro i j j' h h'
    -- The earlier of two answers would count between the input and the later one.
    have hnot : ∀ {j j'}, Fires delay events i j → Fires delay events i j' → ¬ j < j' := by
      intro j j' h h' hlt
      obtain ⟨now, query, hsent⟩ := h.sent
      have hcounts := h'.counts_eq_false h.before hlt hsent
      simp [Step.counts] at hcounts
    have := hnot h h'
    have := hnot h' h
    omega
  case dropped =>
    intro i k e hik hk hready hbefore j h
    rcases Nat.lt_trichotomy j k with hlt | rfl | hlt
    · exact hbefore j hlt h
    · obtain ⟨now, query, hsent⟩ := h.sent
      rw [event_of_getElem?_run hsent] at hk
      exact hready now (Option.some.inj hk).symm
    · have hcounts := h.counts_eq_false hik hlt (getElem?_run (start delay) hk)
      cases e with
      | input query now => simp [Step.counts] at hcounts
      | ready now => exact hready now rfl
      | cancel => simp [Step.counts] at hcounts
  case unchanged =>
    intro before now hnone
    rw [run_concat]
    exact snd_ready_of_none hnone

/-- The second input starts the quiet period again, and a question that comes late finds nothing more. -/
example : ((start 10).run [.input "a" 0, .input "b" 5, .ready 12, .ready 15, .ready 30]).1.map (·.reply) =
    [none, none, none, some "b", none] := by decide

end Debouncer

end Waterfall
