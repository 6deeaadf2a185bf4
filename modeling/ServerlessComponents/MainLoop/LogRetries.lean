import ServerlessComponents.LogsAgent.Flusher

/-!
# The log arm of the main loop

Every cycle of the main loop of `main.rs` gives the builders that failed in the previous one back
to `LogFlusher::flush` and keeps what it returns. Beside the loop's own variable the state keeps
a ledger: what was drained from the aggregator for the primary endpoint, what was delivered and
what was dropped.
-/
namespace ServerlessComponents.MainLoop

open LogsAgent

structure LogLoop where
  cycle : Nat := 0
  pendingLogRetries : List (Numbered RequestBuilder) := []
  drained : List (Numbered Bytes) := []
  delivered : List (Numbered RequestBuilder) := []
  dropped : List (Numbered RequestBuilder) := []

namespace LogLoop

/-- The batches a cycle takes from the aggregator. -/
def taken (cycle : Nat) (world : FlushWorld) : List (Numbered Bytes) :=
  match world.batches with
  | .error _ => []
  | .ok batches => Numbered.ofRound cycle batches

/-- One cycle. -/
def step (config : LogFlusherConfig) (zstd : Compress) (s : LogLoop) (world : FlushWorld) :
    LogLoop :=
  let flushed := flush config zstd s.cycle s.pendingLogRetries world
  let failed := flushed.returned
  { cycle := s.cycle + 1
    -- the variable was emptied by `take` before the flush
    pendingLogRetries := if failed.isEmpty then [] else failed
    drained := s.drained ++ taken s.cycle world
    delivered := s.delivered ++ flushed.withFate .delivered
    dropped := s.dropped ++ flushed.withFate .dropped }

def run (config : LogFlusherConfig) (zstd : Compress) (worlds : List FlushWorld) : LogLoop :=
  worlds.foldl (step config zstd) {}

/-- The builder for the primary endpoint, under the number of its batch. -/
def builderFor (config : LogFlusherConfig) (zstd : Compress) (batch : Numbered Bytes) :
    Numbered RequestBuilder :=
  batch.map (primaryBuilder config zstd)

/-- Every batch drained so far is delivered, dropped or pending, in one place and once. -/
structure Accounts (config : LogFlusherConfig) (zstd : Compress) (s : LogLoop) : Prop where
  once : (s.drained.map Numbered.number).Nodup
  ledger : (s.drained.map (builderFor config zstd)).Perm
    (s.delivered ++ s.dropped ++ s.pendingLogRetries)

/-! ## What a cycle preserves -/

/-- The ledger, and the numbers of the drained batches belong to earlier cycles. -/
structure Inv (config : LogFlusherConfig) (zstd : Compress) (s : LogLoop) : Prop
    extends Accounts config zstd s where
  earlier : ∀ batch ∈ s.drained, batch.round < s.cycle

variable {config : LogFlusherConfig} {zstd : Compress} {s : LogLoop}

theorem freshBuilders_eq (cycle : Nat) (world : FlushWorld) :
    freshBuilders config zstd cycle world = (taken cycle world).map (builderFor config zstd) := by
  unfold freshBuilders taken
  cases world.batches with
  | error e => rfl
  | ok batches => exact Numbered.ofRound_map ..

theorem round_of_mem_taken {cycle : Nat} {world : FlushWorld} {batch : Numbered Bytes}
    (h : batch ∈ taken cycle world) : batch.round = cycle := by
  unfold taken at h
  split at h
  · cases h
  · exact Numbered.round_of_mem_ofRound _ _ h

theorem nodup_taken (cycle : Nat) (world : FlushWorld) :
    ((taken cycle world).map Numbered.number).Nodup := by
  unfold taken
  split
  · exact List.nodup_nil
  · exact Numbered.nodup_number_ofRound ..

theorem Inv.nodup_drained (inv : s.Inv config zstd) (world : FlushWorld) :
    ((s.drained ++ taken s.cycle world).map Numbered.number).Nodup := by
  rw [List.map_append, List.nodup_append]
  refine ⟨inv.once, nodup_taken _ _, ?_⟩
  intro a ha b hb
  obtain ⟨old, hold, rfl⟩ := List.mem_map.1 ha
  obtain ⟨new, hnew, rfl⟩ := List.mem_map.1 hb
  have before := inv.earlier old hold
  have now := round_of_mem_taken hnew
  intro same
  have rounds : old.round = new.round := congrArg Prod.fst same
  omega

/-- The builders a flush starts from are part of the ledger of all batches drained. -/
theorem Inv.ledger_taken (inv : s.Inv config zstd) (world : FlushWorld) :
    ((s.drained ++ taken s.cycle world).map (builderFor config zstd)).Perm
      (s.delivered ++ s.dropped ++
        (s.pendingLogRetries ++ freshBuilders config zstd s.cycle world)) := by
  rw [List.map_append, ← freshBuilders_eq, ← List.append_assoc]
  exact inv.ledger.append_right _

theorem inv_step (inv : s.Inv config zstd) (world : FlushWorld) :
    (s.step config zstd world).Inv config zstd := by
  have pending : (s.step config zstd world).pendingLogRetries =
      (flush config zstd s.cycle s.pendingLogRetries world).returned := by
    simp only [step]
    split
    next empty => exact (List.isEmpty_iff.1 empty).symm
    next => rfl
  refine ⟨⟨inv.nodup_drained world, ?_⟩, ?_⟩
  · rw [pending]
    refine (inv.ledger_taken world).trans ?_
    have moved := (flush_partition config zstd s.cycle s.pendingLogRetries world).append_left
      (s.delivered ++ s.dropped)
    refine moved.trans ?_
    simpa [step] using (List.perm_append_comm_assoc s.dropped _ _).append_left s.delivered
  · intro batch h
    simp only [step, List.mem_append] at h ⊢
    rcases h with old | new
    · exact Nat.lt_succ_of_lt (inv.earlier batch old)
    · exact Nat.lt_succ_of_le (Nat.le_of_eq (round_of_mem_taken new))

theorem inv_run (worlds : List FlushWorld) : (run config zstd worlds).Inv config zstd := by
  have start : ({} : LogLoop).Inv config zstd := ⟨⟨List.nodup_nil, .refl _⟩, by simp⟩
  unfold run
  generalize ({} : LogLoop) = s at start
  induction worlds generalizing s with
  | nil => exact start
  | cons world rest ih => exact ih _ (inv_step start world)

end LogLoop

end ServerlessComponents.MainLoop
