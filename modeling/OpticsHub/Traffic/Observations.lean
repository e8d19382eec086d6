import OpticsHub.Machine.Since
import OpticsHub.Traffic.SyncService

/-!
# What the rows of the traffic say

A day is observed again and again, because Cloudflare corrects its counts. Every observation takes
the place of the one before it, so a row never adds up what was counted twice: as long as a day is
kept, its row is what the last synchronisation has observed that was answered for it.
-/
namespace OpticsHub

open Script Async Program Machine

namespace TrafficSyncService

section Rows

variable {date other : ℤ} {bytes : ℕ} {rows : List TrafficDay}

theorem mem_upsert {written : ℕ} :
    (⟨date, bytes⟩ : TrafficDay) ∈ upsert other written rows ↔
      (date = other ∧ bytes = written) ∨ (date ≠ other ∧ ⟨date, bytes⟩ ∈ rows) := by
  unfold upsert
  split
  · rename_i known
    obtain ⟨row, inside, same⟩ := List.any_eq_true.mp known
    rw [beq_iff_eq] at same
    rw [List.mem_map]
    constructor
    · rintro ⟨found, there, changed⟩
      split at changed
      · cases changed
        rename_i here
        exact .inl ⟨here, rfl⟩
      · rename_i different
        subst changed
        exact .inr ⟨different, there⟩
    · rintro (⟨rfl, rfl⟩ | ⟨different, there⟩)
      · exact ⟨row, inside, by rw [if_pos same, same]⟩
      · exact ⟨_, there, if_neg different⟩
  · rename_i unknown
    have absent : date = other → (⟨date, bytes⟩ : TrafficDay) ∉ rows := by
      rintro rfl inside
      exact unknown (List.any_eq_true.mpr ⟨_, inside, beq_self_eq_true date⟩)
    rw [List.mem_append, List.mem_singleton, TrafficDay.mk.injEq]
    constructor
    · rintro (there | here)
      · exact .inr ⟨fun same => absent same there, there⟩
      · exact .inl here
    · rintro (here | ⟨-, there⟩)
      · exact .inr here
      · exact .inl there

end Rows

/-! ## Runs one after another -/

end TrafficSyncService

end OpticsHub
