import RowMap.Proofs.Statement.Parts

/-!
# Clauses in parts

The clauses that several builders write are lists of parts: the conditions, each with its values,
and the names of returned columns, which bind nothing.
-/

namespace RowMap

/-- A fragment that binds nothing. -/
def Fragment.plain (text : String) : Fragment := { text }

def Condition.fragment (c : Condition) : Fragment := { text := c.text, values := c.values }

def Fragment.bound (v : Value) : Fragment := { text := "?", values := [v] }

/-- The text binds nothing. -/
def Raw (text : String) : Prop := Aligned text.toList []

instance (text : String) : Decidable (Raw text) :=
  inferInstanceAs (Decidable (Aligned text.toList []))

theorem Fragment.Sound.raw {text : String} (h : (Fragment.plain text).Sound) : Raw text := h.aligned

theorem aligned_bound (v : Value) : Aligned "?".toList [v] := by
  have h : Aligned "?".toList [.null .bool] := by decide
  exact h.of_length rfl

theorem aligned_followed {text words : String} {vs ws : List Value} (h : Aligned text.toList vs)
    (hwords : Aligned words.toList ws) (hparts : Parts words.toList) :
    Aligned (text ++ words).toList (vs ++ ws) := by
  rw [String.toList_append]
  exact h.append hwords hparts

theorem raw_qualified {table column : String} (htable : Raw table) (hcolumn : Raw column) :
    Raw (table ++ "." ++ column) := by
  have hdot : Parts ("." ++ column).toList := by
    rw [String.toList_append]
    exact Part.parts_lead (by decide) _
  rw [String.append_assoc]
  refine aligned_followed htable ?_ hdot
  rw [String.toList_append]
  exact .literal_append (by decide) (by decide) hcolumn

/-! ## Clauses in parts -/

def whereParts (conditions : List Condition) : List Part :=
  Part.listed " WHERE " " AND " (by decide) (by decide) (conditions.map Condition.fragment)

def returningParts (columns : List String) : List Part :=
  Part.listed " RETURNING " ", " (by decide) isLead_comma (columns.map .plain)

theorem map_text_plain (texts : List String) :
    (texts.map Fragment.plain).map Fragment.text = texts := by
  rw [List.map_map]
  exact List.map_id texts

theorem flatMap_values_plain (texts : List String) :
    (texts.map Fragment.plain).flatMap Fragment.values = [] := by
  rw [List.flatMap_map]
  exact List.flatMap_eq_nil_iff.mpr fun _ _ => rfl

theorem aligned_plain {texts : List String} (h : ∀ t ∈ texts, Raw t) :
    ∀ f ∈ texts.map Fragment.plain, Aligned f.text.toList f.values := by
  intro f hf
  obtain ⟨t, ht, rfl⟩ := List.mem_map.mp hf
  exact h t ht

theorem marked_whereParts (cs : List Condition) : Part.marked (whereParts cs) = whereClause cs := by
  rw [whereParts, Part.marked_listed, List.map_map, List.isEmpty_map]
  rfl

theorem allValues_whereParts (cs : List Condition) :
    Part.allValues (whereParts cs) = conditionValues cs := by
  rw [whereParts, Part.allValues_listed, List.flatMap_map]
  rfl

theorem allAligned_whereParts {cs : List Condition} (h : ∀ c ∈ cs, Aligned c.text.toList c.values) :
    Part.AllAligned (whereParts cs) := by
  refine Part.allAligned_listed fun f hf => ?_
  obtain ⟨c, hc, rfl⟩ := List.mem_map.mp hf
  exact h c hc

theorem marked_returningParts (columns : List String) :
    Part.marked (returningParts columns) = returningClause columns := by
  rw [returningParts, Part.marked_listed, map_text_plain, List.isEmpty_map]
  rfl

theorem allValues_returningParts (columns : List String) :
    Part.allValues (returningParts columns) = [] := by
  rw [returningParts, Part.allValues_listed, flatMap_values_plain]

theorem allAligned_returningParts {columns : List String} (h : ∀ c ∈ columns, Raw c) :
    Part.AllAligned (returningParts columns) :=
  Part.allAligned_listed (aligned_plain h)

end RowMap
