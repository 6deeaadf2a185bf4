import Mathlib.Data.List.Basic

/-!
# Greedy packing of a queue

A batch is filled from the front of a queue while the next item fits; a queue is drained by
filling batches until it is empty. `σ` is whatever summary of the batch the fitting test reads.

## Main results

* `fill_append` — a batch is a prefix of the queue.
* `fill_maximal` — the next item does not fit any more.
* `fill_append_stable` — items queued behind a batch that has stopped do not change it.
* `drain_terminates`, `drain_sound` — if every single item fits an empty batch, draining ends,
  loses nothing and yields no empty batch.
-/
namespace Greedy

variable {σ α : Type*} (fits : σ → α → Bool) (add : σ → α → σ)

/-- Fill a batch with summary `s`: the items taken and the queue that is left. -/
def fill : σ → List α → List α × List α
  | _, [] => ([], [])
  | s, a :: rest =>
    if fits s a then (a :: (fill (add s a) rest).1, (fill (add s a) rest).2) else ([], a :: rest)

variable {fits add}

@[simp] theorem fill_nil (s : σ) : fill fits add s [] = ([], []) := rfl

theorem fill_cons_fits {s : σ} {a : α} (h : fits s a = true) (rest : List α) :
    fill fits add s (a :: rest) =
      (a :: (fill fits add (add s a) rest).1, (fill fits add (add s a) rest).2) := by
  simp [fill, h]

theorem fill_cons_stuck {s : σ} {a : α} (h : fits s a = false) (rest : List α) :
    fill fits add s (a :: rest) = ([], a :: rest) := by
  simp [fill, h]

variable (fits add) in
/-- Nothing is lost, repeated or reordered. -/
theorem fill_append (s : σ) (queue : List α) :
    (fill fits add s queue).1 ++ (fill fits add s queue).2 = queue := by
  induction queue generalizing s with
  | nil => rfl
  | cons a rest ih =>
    cases h : fits s a with
    | true => simp [fill_cons_fits h, ih]
    | false => simp [fill_cons_stuck h]

/-- The item that is left behind did not fit. -/
theorem fill_maximal {s : σ} {queue rest : List α} {a : α}
    (left : (fill fits add s queue).2 = a :: rest) :
    fits ((fill fits add s queue).1.foldl add s) a = false := by
  induction queue generalizing s with
  | nil => cases left
  | cons b queue ih =>
    cases h : fits s b with
    | true =>
      rw [fill_cons_fits h] at left ⊢
      exact ih left
    | false =>
      rw [fill_cons_stuck h] at left ⊢
      cases left
      exact h

variable (fits add) in
/-- What every fitting item preserves holds of the filled batch. -/
theorem fill_invariant {P : σ → Prop} (step : ∀ s a, P s → fits s a = true → P (add s a))
    {s : σ} (hs : P s) (queue : List α) : P ((fill fits add s queue).1.foldl add s) := by
  induction queue generalizing s with
  | nil => exact hs
  | cons a rest ih =>
    cases h : fits s a with
    | true => simpa [fill_cons_fits h] using ih (step s a hs h)
    | false => simpa [fill_cons_stuck h] using hs

/-- A queue whose items all fit one after the other goes into one batch. -/
theorem fill_all {s : σ} {queue : List α}
    (h : ∀ before a after, queue = before ++ a :: after →
      fits (before.foldl add s) a = true) :
    fill fits add s queue = (queue, []) := by
  induction queue generalizing s with
  | nil => rfl
  | cons a rest ih =>
    have first : fits s a = true := h [] a rest rfl
    rw [fill_cons_fits first, ih]
    intro before b after hq
    exact h (a :: before) b after (by rw [hq]; rfl)

/-- Once a batch has stopped, because an item was left behind or because nothing more fits,
items queued later do not enter it. -/
theorem fill_append_stable {s : σ} {queue : List α}
    (stopped : (fill fits add s queue).2 = [] → ∀ a, fits (queue.foldl add s) a = false)
    (later : List α) :
    fill fits add s (queue ++ later) =
      ((fill fits add s queue).1, (fill fits add s queue).2 ++ later) := by
  induction queue generalizing s with
  | nil =>
    cases later with
    | nil => rfl
    | cons a later => simpa using fill_cons_stuck (stopped rfl a) later
  | cons b queue ih =>
    cases hb : fits s b with
    | true =>
      rw [fill_cons_fits hb] at stopped
      simp [fill_cons_fits hb, ih stopped]
    | false => simp [fill_cons_stuck hb]

variable (add) in
/-- An item that fits at once makes the batch non-empty. -/
theorem fill_ne_nil {s : σ} {a : α} (h : fits s a = true) (rest : List α) :
    (fill fits add s (a :: rest)).1 ≠ [] := by
  simp [fill_cons_fits h]

/-- A non-empty batch leaves a shorter queue. -/
theorem fill_shrinks {s : σ} {queue : List α} (h : (fill fits add s queue).1 ≠ []) :
    (fill fits add s queue).2.length < queue.length := by
  have lengths := congrArg List.length (fill_append fits add s queue)
  have positive := List.length_pos_of_ne_nil h
  simp only [List.length_append] at lengths
  omega

variable (fits add)

/-- Fill batches from an empty one each, until the queue is empty or the fuel is spent. -/
def drain (s : σ) : Nat → List α → Option (List (List α))
  | 0, _ => none
  | _ + 1, [] => some []
  | fuel + 1, a :: rest =>
    (drain s fuel (fill fits add s (a :: rest)).2).map ((fill fits add s (a :: rest)).1 :: ·)

variable {fits add}

variable (add) in
/-- If every queued item fits an empty batch, draining ends. -/
theorem drain_terminates {s : σ} {queue : List α} (alone : ∀ a ∈ queue, fits s a = true)
    {fuel : Nat} (hf : queue.length < fuel) :
    ∃ batches, drain fits add s fuel queue = some batches := by
  induction fuel generalizing queue with
  | zero => simp at hf
  | succ fuel ih =>
    cases queue with
    | nil => exact ⟨[], rfl⟩
    | cons a rest =>
      have shorter := fill_shrinks (fill_ne_nil add (alone a (by simp)) rest)
      have split := fill_append fits add s (a :: rest)
      have left : ∀ b ∈ (fill fits add s (a :: rest)).2, fits s b = true := by
        intro b hb
        apply alone b
        rw [← split]
        exact List.mem_append_right _ hb
      obtain ⟨batches, hd⟩ := ih left (by omega)
      exact ⟨(fill fits add s (a :: rest)).1 :: batches, by simp [drain, hd]⟩

/-- The batches of a drained queue are non-empty, filled batches and concatenate to the queue. -/
theorem drain_sound {s : σ} {queue : List α} (alone : ∀ a ∈ queue, fits s a = true) {fuel : Nat}
    {batches : List (List α)} (h : drain fits add s fuel queue = some batches) :
    batches.flatten = queue ∧
      ∀ batch ∈ batches, batch ≠ [] ∧ ∃ q, batch = (fill fits add s q).1 := by
  induction fuel generalizing queue batches with
  | zero => cases h
  | succ fuel ih =>
    cases queue with
    | nil =>
      cases h
      exact ⟨rfl, by simp⟩
    | cons a rest =>
      have split := fill_append fits add s (a :: rest)
      obtain ⟨later, hd, rfl⟩ := Option.map_eq_some_iff.1 h
      obtain ⟨hflat, hall⟩ := ih
        (fun b hb => alone b (by rw [← split]; exact List.mem_append_right _ hb)) hd
      refine ⟨by rw [List.flatten_cons, hflat, split], ?_⟩
      simp only [List.mem_cons, forall_eq_or_imp]
      exact ⟨⟨fill_ne_nil add (alone a (by simp)) rest, _, rfl⟩, hall⟩

end Greedy
