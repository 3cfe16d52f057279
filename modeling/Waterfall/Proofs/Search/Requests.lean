import Mathlib.Tactic.SplitIfs
import Waterfall.Search.RequestSequence

/-!
# Requests and their answers

Requests are numbered while answers to earlier ones are on their way. An answer may come late, more than
once or not at all, answers may overtake each other, and one may come under a number that was never given
out. So an answer is taken to arrive at any time and under any number, and a run is any list of such
events between the requests.

What a run shows is the list of its replies. `numbersIssued` and `numbersLetThrough` are read off that
list, and the state enters the statements only by `latest_run`: it is the count of the requests so far, as
long as there are fewer of them than numbers. One request more would be numbered zero.
-/

namespace Waterfall

namespace RequestSequence

/-! ## Events and replies -/

inductive Event (ρ : Type) where
  | request
  /-- An answer arrives, under the number of any request or of none. -/
  | answer (number : Nat) (response : ρ)

/-- What an event gives back. -/
inductive Reply (ρ : Type) where
  | issued (number : Nat)
  /-- The answer, if it is let through. -/
  | answered (number : Nat) (response : Option ρ)

variable {ρ : Type}

def handle (s : RequestSequence) : Event ρ → Reply ρ × RequestSequence
  | .request => (.issued s.issue.1, s.issue.2)
  | .answer number response => (.answered number (s.accept number response), s)

/-- The replies to some events, one after the other, and where they lead. -/
def run : RequestSequence → List (Event ρ) → List (Reply ρ) × RequestSequence
  | s, [] => ([], s)
  | s, e :: rest => ((s.handle e).1 :: (run (s.handle e).2 rest).1, (run (s.handle e).2 rest).2)

def Event.isRequest : Event ρ → Bool
  | .request => true
  | .answer _ _ => false

/-- How many requests are among some events. -/
def requestCount (events : List (Event ρ)) : Nat := events.countP Event.isRequest

theorem requestCount_request (rest : List (Event ρ)) :
    requestCount (.request :: rest) = requestCount rest + 1 :=
  List.countP_cons_of_pos rfl

def Reply.issued? : Reply ρ → Option Nat
  | .issued number => some number
  | .answered _ _ => none

/-- The number under which an answer is let through. -/
def Reply.letThrough? : Reply ρ → Option Nat
  | .answered number (some _) => some number
  | _ => none

/-- The numbers given out, in the order of the requests. -/
def numbersIssued (replies : List (Reply ρ)) : List Nat := replies.filterMap Reply.issued?

/-- The numbers of the answers let through, in the order of their arrival. -/
def numbersLetThrough (replies : List (Reply ρ)) : List Nat := replies.filterMap Reply.letThrough?

/-- The number given out last. -/
def lastIssued? (replies : List (Reply ρ)) : Option Nat := (numbersIssued replies).getLast?

theorem run_append (s : RequestSequence) (before after : List (Event ρ)) :
    s.run (before ++ after) =
      ((s.run before).1 ++ ((s.run before).2.run after).1, ((s.run before).2.run after).2) := by
  induction before generalizing s with
  | nil => rfl
  | cons e rest ih => simp only [List.cons_append, run, ih]

theorem length_run (s : RequestSequence) (events : List (Event ρ)) :
    (s.run events).1.length = events.length := by
  induction events generalizing s with
  | nil => rfl
  | cons e rest ih => simp only [run, List.length_cons, ih]

/-! ## What a run gives out -/

/-- A run is followed event by event: as long as there are numbers left, a request counts one up, and an
answer leaves the sequence as it is. -/
theorem run_induction {P : RequestSequence → List (Event ρ) → Prop} (nil : ∀ s, P s [])
    (request : ∀ s rest, s.issue = (s.latest + 1, ⟨s.latest + 1⟩) → P ⟨s.latest + 1⟩ rest →
      P s (.request :: rest))
    (answer : ∀ s number response rest, P s rest → P s (.answer number response :: rest))
    {s : RequestSequence} {events : List (Event ρ)}
    (h : s.latest + requestCount events < numberBound) : P s events := by
  induction events generalizing s with
  | nil => exact nil s
  | cons e rest ih =>
    cases e with
    | request =>
      rw [requestCount_request] at h
      refine request s rest (issue_of_lt (by omega)) (ih ?_)
      show s.latest + 1 + requestCount rest < numberBound
      omega
    | answer number response => exact answer s number response rest (ih h)

/-- Where a run leads is counted. -/
theorem latest_run {s : RequestSequence} {events : List (Event ρ)}
    (h : s.latest + requestCount events < numberBound) :
    (s.run events).2.latest = s.latest + requestCount events := by
  refine run_induction (P := fun s events => (s.run events).2.latest = s.latest + requestCount events)
    ?nil ?request ?answer h
  case nil => exact fun s => rfl
  case request =>
    intro s rest hissue htail
    simp only [run, handle, hissue, htail, requestCount_request]
    omega
  case answer => exact fun s number response rest htail => htail

/-- The numbers follow each other without a gap. -/
theorem numbersIssued_run {s : RequestSequence} {events : List (Event ρ)}
    (h : s.latest + requestCount events < numberBound) :
    numbersIssued (s.run events).1 = List.range' (s.latest + 1) (requestCount events) := by
  refine run_induction (P := fun s events =>
    numbersIssued (s.run events).1 = List.range' (s.latest + 1) (requestCount events))
    ?nil ?request ?answer h
  case nil => exact fun s => rfl
  case request =>
    intro s rest hissue htail
    rw [requestCount_request, List.range'_succ, ← htail]
    simp only [numbersIssued, run, handle, hissue, List.filterMap_cons, Reply.issued?]
  case answer => exact fun s number response rest htail => htail

/-- The number given out last is the count of the requests, if there was one. -/
theorem lastIssued?_run {events : List (Event ρ)} (h : requestCount events < numberBound) :
    lastIssued? (start.run events).1 =
      if requestCount events = 0 then none else some (requestCount events) := by
  have hfit : start.latest + requestCount events < numberBound := by
    rwa [start, Nat.zero_add]
  rw [lastIssued?, numbersIssued_run hfit, List.getLast?_range']
  split_ifs with hnone
  · rfl
  · simp only [start, Option.some.injEq]
    omega

/-- An answer is let through if its number is the one given out last. -/
theorem accept_run {events : List (Event ρ)} (h : requestCount events < numberBound) (number : Nat)
    (response : ρ) :
    (start.run events).2.accept number response =
      if lastIssued? (start.run events).1 = some number then some response else none := by
  have hlatest : (start.run events).2.latest = requestCount events := by
    rw [latest_run (by rwa [start, Nat.zero_add]), start, Nat.zero_add]
  have hcurrent : (start.run events).2.isCurrent number = true ↔
      lastIssued? (start.run events).1 = some number := by
    rw [isCurrent_iff, hlatest, lastIssued?_run h]
    split_ifs with hnone
    · simp only [iff_false]
      omega
    · rw [Option.some.injEq]
      omega
  simp only [accept, hcurrent]

/-! ## What a run lets through -/

/-- Answers are let through in the order of their requests, none of them for a request before the latest
at the start. -/
theorem numbersLetThrough_run {s : RequestSequence} {events : List (Event ρ)}
    (h : s.latest + requestCount events < numberBound) :
    (∀ number ∈ numbersLetThrough (s.run events).1, s.latest ≤ number) ∧
      (numbersLetThrough (s.run events).1).Pairwise (· ≤ ·) := by
  -- The bound carries the order: an answer let through now has the latest number, which bounds the rest.
  refine run_induction (P := fun s events =>
    (∀ number ∈ numbersLetThrough (s.run events).1, s.latest ≤ number) ∧
      (numbersLetThrough (s.run events).1).Pairwise (· ≤ ·)) ?nil ?request ?answer h
  case nil => exact fun s => ⟨by simp [run, numbersLetThrough], List.Pairwise.nil⟩
  case request =>
    rintro s rest hissue ⟨hlower, hsorted⟩
    have hnumbers : numbersLetThrough (s.run (.request :: rest)).1 =
        numbersLetThrough (run ⟨s.latest + 1⟩ rest).1 := by
      simp only [numbersLetThrough, run, handle, hissue, List.filterMap_cons, Reply.letThrough?]
    rw [hnumbers]
    refine ⟨?_, hsorted⟩
    intro number hnumber
    exact Nat.le_of_succ_le (hlower number hnumber)
  case answer =>
    rintro s number response rest ⟨hlower, hsorted⟩
    by_cases hcurrent : s.isCurrent number = true
    · obtain ⟨-, rfl⟩ := isCurrent_iff.mp hcurrent
      have hnumbers : numbersLetThrough (s.run (.answer s.latest response :: rest)).1 =
          s.latest :: numbersLetThrough (s.run rest).1 := by
        simp [numbersLetThrough, run, handle, accept, hcurrent, Reply.letThrough?]
      rw [hnumbers, List.pairwise_cons]
      exact ⟨List.forall_mem_cons.mpr ⟨Nat.le_refl _, hlower⟩, hlower, hsorted⟩
    · have hnumbers : numbersLetThrough (s.run (.answer number response :: rest)).1 =
          numbersLetThrough (s.run rest).1 := by
        simp only [numbersLetThrough, run, handle, accept, hcurrent, Bool.false_eq_true, ↓reduceIte,
          List.filterMap_cons, Reply.letThrough?]
      rw [hnumbers]
      exact ⟨hlower, hsorted⟩

/-! ## Main statement -/

/-- What a run of events shows when only the answer to the latest request counts. -/
structure AnswersLatestOnly (events : List (Event ρ)) : Prop where
  /-- Numbers begin at one and go up by one. -/
  numbers_eq : numbersIssued (start.run events).1 = List.range' 1 (requestCount events)
  increasing : (numbersIssued (start.run events).1).Pairwise (· < ·)
  distinct : (numbersIssued (start.run events).1).Nodup
  /-- Wherever it arrives, an answer is let through if and only if its number was given out last. -/
  answered : ∀ before number response after, events = before ++ .answer number response :: after →
    (start.run events).1[before.length]? = some (.answered number
      (if lastIssued? (start.run before).1 = some number then some response else none))
  /-- Nothing is let through before the first request. -/
  silent : ∀ before number response after, events = before ++ .answer number response :: after →
    requestCount before = 0 → (start.run events).1[before.length]? = some (.answered number none)
  /-- An answer changes nothing, whether it is let through or not. -/
  unchanged : ∀ before number response after, events = before ++ .answer number response :: after →
    (start.run (before ++ [.answer number response])).2 = (start.run before).2
  /-- No answer is let through after the answer to a later request. -/
  ordered : (numbersLetThrough (start.run events).1).Pairwise (· ≤ ·)

/-- **Only the latest request is answered**, in whatever order requests are numbered and answers arrive,
as long as there are numbers left. -/
theorem answersLatestOnly_run (events : List (Event ρ)) (h : requestCount events < numberBound) :
    AnswersLatestOnly events := by
  have hfit : start.latest + requestCount events < numberBound := by
    rwa [start, Nat.zero_add]
  have hnumbers : numbersIssued (start.run events).1 = List.range' 1 (requestCount events) :=
    numbersIssued_run hfit
  have hincreasing : (numbersIssued (start.run events).1).Pairwise (· < ·) := by
    rw [hnumbers]
    exact List.pairwise_lt_range'
  have hanswered : ∀ before number response after, events = before ++ .answer number response :: after →
      (start.run events).1[before.length]? = some (.answered number
        (if lastIssued? (start.run before).1 = some number then some response else none)) := by
    rintro before number response after rfl
    have hbefore : requestCount before < numberBound :=
      Nat.lt_of_le_of_lt (List.sublist_append_left ..).countP_le h
    rw [run_append, ← accept_run hbefore, ← length_run start before,
      List.getElem?_append_right (Nat.le_refl _), Nat.sub_self]
    rfl
  refine ⟨hnumbers, hincreasing, hincreasing.imp Nat.ne_of_lt, hanswered, ?_, ?_,
    (numbersLetThrough_run hfit).2⟩
  · intro before number response after hevents hnone
    have hbefore : requestCount before < numberBound := by
      rw [hnone]
      decide
    have hlast : lastIssued? (start.run before).1 = none := by
      rw [lastIssued?_run hbefore, if_pos hnone]
    rw [hanswered before number response after hevents, hlast]
    rfl
  · intro before number response after _
    rw [run_append]
    rfl

/-- Answers that come before any request, late, twice, and under a number not given out. -/
def disorderlyAnswers : List (Event String) := [
  .answer 0 "before any", .request, .request, .answer 1 "late", .answer 2 "in time", .answer 2 "twice",
  .answer 7 "to nothing", .request, .answer 2 "late", .answer 3 "in time"]

theorem disorderlyAnswers_latest_only :
    requestCount disorderlyAnswers < numberBound ∧ AnswersLatestOnly disorderlyAnswers ∧
    numbersLetThrough (start.run disorderlyAnswers).1 = [2, 2, 3] := by
  have hcount : requestCount disorderlyAnswers < numberBound := by decide
  exact ⟨hcount, answersLatestOnly_run disorderlyAnswers hcount, by decide⟩

end RequestSequence

end Waterfall
