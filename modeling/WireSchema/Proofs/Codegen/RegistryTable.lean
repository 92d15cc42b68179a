import WireSchema.Codegen.File
import WireSchema.Proofs.Schema.Resolve
import WireSchema.Proofs.Wire.Registry

/-!
# The table of a generated registry

The table lists the messages of a schema by ascending identifier. The checks of a schema compare
identifiers as they are written, and the table those on the wire; in range both are the same number,
so the table has no two neighbours with one identifier and code can always be generated
(`fragments_isOk`).

Under an identifier, halving the table, the index of a schema and a search through its messages find
the same message (`registryTable_lookup`).
-/

namespace WireSchema

/-! ## The index of identifiers -/

namespace Schema

/-- The index of a schema finds what a search for the identifier as it is written finds. -/
theorem messageById?_eq_find? (s : Schema) (id : UInt32) :
    s.messageById? id = s.messages.find? fun m => m.identifier == (id.toNat : Int) := by
  refine (lookUp?_eq_find? s.nodup_ids id).trans (List.find?_congr fun m hm => ?_)
  rw [Bool.eq_iff_iff, beq_iff_eq, beq_iff_eq]
  exact id_eq_iff hm

/-- The positions of the messages by identifier. A message takes the place of an earlier one with
    its identifier. -/
def idIndex (s : Schema) : Std.HashMap UInt32 Nat :=
  keyIndex Message.id s.messages

/-- The index leads to the message with an identifier. -/
theorem idIndex_bind_getElem? (s : Schema) (id : UInt32) :
    s.idIndex[id]?.bind (fun i => s.messages[i]?) = s.messageById? id := by
  rw [idIndex, keyIndex_getElem?]
  rfl

end Schema

namespace Codegen

/-! ## The table -/

/-- The table has every message of the schema once. -/
theorem registryTable_perm (s : Schema) : (registryTable s).Perm s.messages :=
  List.mergeSort_perm _ _

/-- The identifiers of the table ascend strictly, as no two messages share one. -/
theorem registryTable_ascending (s : Schema) :
    (registryTable s).Pairwise fun a b => a.id < b.id := by
  have hle : (registryTable s).Pairwise fun a b => decide (a.id ≤ b.id) = true := by
    refine List.pairwise_mergeSort (fun a b c hab hbc => ?_) (fun a b => ?_) s.messages
    · exact decide_eq_true (UInt32.le_trans (of_decide_eq_true hab) (of_decide_eq_true hbc))
    · simp [UInt32.le_total]
  -- Sorting lets equal identifiers stand side by side, but the checks have ruled them out.
  have hne : (registryTable s).Pairwise fun a b => a.id ≠ b.id :=
    List.pairwise_map.1 (((registryTable_perm s).map Message.id).nodup_iff.2 s.nodup_ids)
  exact hle.imp₂ (fun _ _ hle hne => UInt32.lt_of_le_of_ne (of_decide_eq_true hle) hne) hne

/-- Neighbours in an ascending table have different identifiers. -/
theorem ambiguity?_of_ascending {table : List Message}
    (h : table.Pairwise fun a b => a.id < b.id) : ambiguity? table = none := by
  fun_induction ambiguity? table with
  | case1 a b rest heq =>
    have hlt := List.rel_of_pairwise_cons h List.mem_cons_self
    rw [eq_of_beq heq] at hlt
    exact absurd hlt (UInt32.lt_irrefl _)
  | case2 a b rest hne ih => exact ih h.of_cons
  | case3 => rfl

/-- Since no identifier is ambiguous, every schema has the code of a registry. -/
theorem registryCode_isOk (s : Schema) : ∃ code, registryCode s = .ok code := by
  rw [registryCode, ambiguity?_of_ascending (registryTable_ascending s)]
  exact ⟨_, rfl⟩

/-- Code can be generated from every schema. -/
theorem fragments_isOk (s : Schema) (runtimePath : String) :
    ∃ parts, fragments s runtimePath = .ok parts := by
  obtain ⟨code, hcode⟩ := registryCode_isOk s
  rw [fragments, hcode]
  exact ⟨_, rfl⟩

/-! ## Look-up in the table -/

variable {μ : Type} (decode : Message → Reader DecodeError μ)

/-- The entry of a message, which is read by `decode`. -/
def entryOf (m : Message) : Registry.Entry μ := ⟨m.id, m.name, decode m⟩

/-- The registry with a given table. -/
def registryOf (table : List Message) : Registry μ := ⟨(table.map (entryOf decode)).toArray⟩

/-- The registry finds under an identifier the message that the schema has under it. -/
theorem get?_registryOf (s : Schema) (id : UInt32) :
    (registryOf decode (registryTable s)).get? id = (s.messageById? id).map (entryOf decode) := by
  have hsorted : Registry.Sorted (registryOf decode (registryTable s)).entries :=
    List.pairwise_map.2 (registryTable_ascending s)
  rw [Registry.get?_eq_find? hsorted, registryOf, List.find?_map]
  have hids : ((registryTable s).map Message.id).Nodup :=
    ((registryTable_perm s).map Message.id).nodup_iff.2 s.nodup_ids
  have hlook := lookUp?_of_perm (registryTable_perm s) hids id
  rw [lookUp?_eq_find? hids] at hlook
  exact congrArg _ hlook

/-- The table of a registry holds the messages of its schema by ascending identifier, so that none
    is ambiguous. Under every identifier, the registry, the index of the schema and a search through
    the messages give the same, and no registry, sorted or not, gives an entry under an identifier
    that is not its own. -/
theorem registryTable_lookup (s : Schema) :
    (registryTable s).Perm s.messages ∧
    (registryTable s).Pairwise (fun a b => a.identifier < b.identifier ∧ a.id < b.id) ∧
    ambiguity? (registryTable s) = none ∧
    (∃ code, registryCode s = .ok code) ∧
    (∀ id : UInt32,
      (registryOf decode (registryTable s)).get? id = (s.messageById? id).map (entryOf decode) ∧
      s.messageById? id = s.idIndex[id]?.bind (fun i => s.messages[i]?) ∧
      s.messageById? id = s.messages.find? (fun m => m.identifier == (id.toNat : Int)) ∧
      ∀ m, s.messageById? id = some m ↔ m ∈ s.messages ∧ m.identifier = id.toNat) ∧
    (∀ (r : Registry μ) (id : UInt32), ∀ e ∈ r.get? id, e ∈ r.entries ∧ e.id = id) := by
  refine ⟨registryTable_perm s, ?_, ambiguity?_of_ascending (registryTable_ascending s),
    registryCode_isOk s, fun id => ⟨get?_registryOf decode s id, (s.idIndex_bind_getElem? id).symm,
      s.messageById?_eq_find? id, fun m => ?_⟩, fun r id e he => Registry.mem_of_get? he⟩
  · refine (registryTable_ascending s).imp_of_mem fun {a b} ha hb hlt => ⟨?_, hlt⟩
    rw [(registryTable_perm s).mem_iff] at ha hb
    rw [← Schema.toNat_id ha, ← Schema.toNat_id hb]
    exact Int.ofNat_lt.2 (UInt32.lt_iff_toNat_lt.1 hlt)
  · rw [Schema.messageById?_eq_some_iff]
    exact and_congr_right Schema.id_eq_iff

end Codegen

end WireSchema
