import PromptGraph.Proofs.Node.Reads

/-!
# Values That Are Looked Past

A node whose buffer has one value more, which none of its reads can use.

Editors store values that belong to no input, such as what is to be done with a seed afterwards.
They stand among the others, and a node reads past them. Which read that is follows from the reads
without the value: the first that finds nothing before the place of the value, whether it finds
something behind it or nothing at all. If the value does not fit the kind that this read looks for,
it is behind when the read is done. Later reads do not see it, and those before did not get to it.

## Theorems

* `Site.compile_decorated`: Neither the reads nor the compiled node are changed.
* `Site.reseeded_decorated`: A word between two numbers is looked past.
-/

namespace PromptGraph

namespace Site

variable (site : Site)

/-- Reads that look past a value give the same as without it, and a node whose reads look past it
    compiles to the same, or fails with the same error. -/
theorem compile_decorated (front back : List Json) (value : Json) :
    (∀ kinds, LooksPast front.length value (Cursor.attempts ⟨.sequence (front ++ back), 0⟩ kinds) →
        Cursor.popAll ⟨.sequence (front ++ value :: back), 0⟩ kinds =
          Cursor.popAll ⟨.sequence (front ++ back), 0⟩ kinds) ∧
      (LooksPast front.length value (Cursor.attempts ⟨.sequence (front ++ back), 0⟩
          (site.withValues (front ++ back)).kinds) →
        (site.withValues (front ++ value :: back)).compile.result =
          (site.withValues (front ++ back)).compile.result) := by
  have hpops : ∀ kinds,
      LooksPast front.length value (Cursor.attempts ⟨.sequence (front ++ back), 0⟩ kinds) →
        Cursor.popAll ⟨.sequence (front ++ value :: back), 0⟩ kinds =
          Cursor.popAll ⟨.sequence (front ++ back), 0⟩ kinds :=
    Cursor.popAll_inserts (Cursor.inserts_start front back value)
  refine ⟨hpops, fun hpast => ?_⟩
  exact (site.withValues (front ++ back)).compile_congr_reads rfl _ (hpops _ hpast)

/-- The sampler reads the number of steps behind the word, which is no number. -/
theorem looksPast_reseeded :
    LooksPast 1 (.str "randomize") (Cursor.attempts
      ⟨.sequence [jsonOfUInt64 11, jsonOfUInt64 22], 0⟩
        (reseeded.withValues [jsonOfUInt64 11, jsonOfUInt64 22]).kinds) := by
  intro attempt hfirst
  cases hfirst
  rfl

/-- The word between the seed and the number of steps does not matter. -/
theorem reseeded_decorated :
    (reseeded.withValues [jsonOfUInt64 11, .str "randomize", jsonOfUInt64 22]).compile.result =
      (reseeded.withValues [jsonOfUInt64 11, jsonOfUInt64 22]).compile.result :=
  (reseeded.compile_decorated [jsonOfUInt64 11] [jsonOfUInt64 22] (.str "randomize")).2
    looksPast_reseeded

end Site

end PromptGraph
