import Mathlib.Data.String.Basic
import RowMap.Paging.Filters

/-!
# Complaints about filters

Each of the three fields is complained about at most once, and exactly when it is out of its bounds.
The first message of a field stays, so a number that is not positive is never called too large.
-/

namespace RowMap

namespace ValidationErrors

section
variable {field : String} {entries : List (String × String)} (h : ∀ e ∈ entries, e.1 < field)
include h

theorem insertEntry_new (message : String) :
    insertEntry field message entries = entries ++ [(field, message)] := by
  induction entries with
  | nil => rfl
  | cons e entries ih =>
    obtain ⟨hlt, hrest⟩ := List.forall_mem_cons.mp h
    rw [insertEntry, if_neg hlt.ne', if_neg hlt.not_gt, ih hrest, List.cons_append]

theorem insertEntry_known (old message : String) :
    insertEntry field message (entries ++ [(field, old)]) = entries ++ [(field, old)] := by
  induction entries with
  | nil => exact if_pos rfl
  | cons e entries ih =>
    obtain ⟨hlt, hrest⟩ := List.forall_mem_cons.mp h
    rw [List.cons_append, insertEntry, if_neg hlt.ne', if_neg hlt.not_gt, ih hrest]

theorem entries_check {errors : ValidationErrors} (herrors : errors.entries = entries) (ok : Bool)
    (message : String) : (errors.check ok field message).entries =
      entries ++ if ok then [] else [(field, message)] := by
  subst herrors
  cases ok with
  | true => exact (List.append_nil _).symm
  | false => exact insertEntry_new h message

theorem entries_check_known {errors : ValidationErrors} {old : String}
    (herrors : errors.entries = entries ++ [(field, old)]) (ok : Bool) (message : String) :
    (errors.check ok field message).entries = entries ++ [(field, old)] := by
  cases ok with
  | true => exact herrors
  | false =>
    show insertEntry field message errors.entries = _
    rw [herrors]
    exact insertEntry_known h old message

end

end ValidationErrors

namespace Filters

/-- What is said of a number that should be positive and at most a bound. -/
def boundComplaint (field : String) (n bound : Int) (tooLarge : String) : List (String × String) :=
  if n < 1 then [(field, "must be greater than zero")]
  else if bound < n then [(field, tooLarge)]
  else []

def pageComplaint (f : Filters) : List (String × String) :=
  boundComplaint "page" f.page.toInt maxPage "must be a maximum of 10 million"

def sizeComplaint (f : Filters) (maxPageSize : Int64) : List (String × String) :=
  boundComplaint "page_size" f.pageSize.toInt maxPageSize.toInt
    ("must be a maximum of " ++ toString maxPageSize.toInt)

/-- What is said of filters, in the order of the fields' names. -/
def complaints (f : Filters) (maxPageSize : Int64) : List (String × String) :=
  f.pageComplaint ++ f.sizeComplaint maxPageSize ++
    if f.sort ∈ f.safelist then [] else [("sort", "invalid sort value")]

/-- The fields that are out of their bounds. -/
def offending (f : Filters) (maxPageSize : Int64) : List String :=
  (if 1 ≤ f.page.toInt ∧ f.page.toInt ≤ maxPage then [] else ["page"]) ++
    (if 1 ≤ f.pageSize.toInt ∧ f.pageSize.toInt ≤ maxPageSize.toInt then [] else ["page_size"]) ++
    if f.sort ∈ f.safelist then [] else ["sort"]

theorem fields_boundComplaint (field : String) (n bound : Int) (tooLarge : String) :
    (boundComplaint field n bound tooLarge).map Prod.fst =
      if 1 ≤ n ∧ n ≤ bound then [] else [field] := by
  unfold boundComplaint
  split
  · rw [if_neg (by omega)]
    rfl
  · split
    · rw [if_neg (by omega)]
      rfl
    · rw [if_pos (by omega)]
      rfl

theorem fields_complaints (f : Filters) (maxPageSize : Int64) :
    (f.complaints maxPageSize).map Prod.fst = f.offending maxPageSize := by
  rw [complaints, List.map_append, List.map_append, pageComplaint, sizeComplaint,
    fields_boundComplaint, fields_boundComplaint, offending]
  congr 1
  split <;> rfl

theorem offending_eq_nil_iff (f : Filters) (maxPageSize : Int64) : f.offending maxPageSize = [] ↔
    (1 ≤ f.page.toInt ∧ f.page.toInt ≤ maxPage) ∧
      (1 ≤ f.pageSize.toInt ∧ f.pageSize.toInt ≤ maxPageSize.toInt) ∧ f.sort ∈ f.safelist := by
  simp [offending, and_assoc]

theorem entries_checkBound {errors : ValidationErrors} {entries : List (String × String)}
    (herrors : errors.entries = entries) {field : String} (h : ∀ e ∈ entries, e.1 < field)
    (n bound : Int) (tooLarge : String) :
    (errors.check (0 < n) field "must be greater than zero"
        |>.check (n ≤ bound) field tooLarge).entries =
      entries ++ boundComplaint field n bound tooLarge := by
  have hfirst := ValidationErrors.entries_check h herrors (0 < n) "must be greater than zero"
  unfold boundComplaint
  by_cases hpositive : 0 < n
  · rw [decide_eq_true hpositive, if_pos rfl, List.append_nil] at hfirst
    rw [decide_eq_true hpositive, if_neg (by omega), ValidationErrors.entries_check h hfirst]
    by_cases hbound : n ≤ bound
    · rw [decide_eq_true hbound, if_pos rfl, if_neg (by omega)]
    · rw [decide_eq_false hbound, if_neg nofun, if_pos (by omega)]
  · rw [decide_eq_false hpositive, if_neg nofun] at hfirst
    rw [decide_eq_false hpositive, if_pos (by omega), ValidationErrors.entries_check_known h hfirst]

theorem field_of_boundComplaint {field : String} {n bound : Int} {tooLarge : String}
    {e : String × String} (h : e ∈ boundComplaint field n bound tooLarge) : e.1 = field := by
  have hfield : e.1 ∈ (boundComplaint field n bound tooLarge).map Prod.fst := List.mem_map_of_mem h
  rw [fields_boundComplaint] at hfield
  split at hfield
  · cases hfield
  · exact List.mem_singleton.mp hfield

theorem entries_validate (f : Filters) (maxPageSize : Int64) :
    (f.validate maxPageSize .empty).entries = f.complaints maxPageSize := by
  have hstart : ∀ e ∈ ValidationErrors.empty.entries, e.1 < "page" := nofun
  have hpage : ∀ e ∈ f.pageComplaint, e.1 < "page_size" :=
    fun e he => field_of_boundComplaint he ▸ (by decide)
  have hsize : ∀ e ∈ f.pageComplaint ++ f.sizeComplaint maxPageSize, e.1 < "sort" := by
    refine List.forall_mem_append.mpr ⟨fun e he => (hpage e he).trans (by decide), fun e he => ?_⟩
    exact field_of_boundComplaint he ▸ (by decide)
  have hchecked := ValidationErrors.entries_check hsize (entries_checkBound
    (entries_checkBound rfl hstart _ _ _) hpage _ _ _) (isPermitted f.sort f.safelist)
    "invalid sort value"
  rw [validate, hchecked, complaints]
  simp [isPermitted]

end Filters

end RowMap
