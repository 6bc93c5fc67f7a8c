import RowMap.Proofs.Statement.SelectParts
import RowMap.Proofs.Statement.WriteParts

/-!
# Statements under construction

A builder is called in any order and keeps texts and values in lists of their own. Whatever the
calls were, the built statement consists of the fragments that were supplied, in the order of SQL,
and every marker has the value that came with its fragment.
-/

namespace RowMap

/-- Where a builder starts, and what it is called with. -/
inductive Construction
  | select (table : String) (calls : List Select.Call)
  | insert {s : Shape} (r : Record s) (calls : List Insert.Call)
  | update (table : String) (calls : List Update.Call)
  | updateOf {s : Shape} (r : Record s) (calls : List Update.Call)

namespace Construction

def build : Construction → Statement
  | .select table calls => ((Select.ofTable table).run calls).build
  | .insert r calls => ((Insert.ofRecord r).run calls).build
  | .update table calls => ((Update.ofTable table).run calls).build
  | .updateOf r calls => ((Update.ofRecord r).run calls).build

/-- Everything that the caller supplies: the table, and what comes with the calls. A record supplies
its writable columns. -/
def supplied : Construction → List Fragment
  | .select table calls => .plain table :: calls.flatMap Select.Call.supplied
  | @insert s r calls => .plain s.table :: ((r.writableValues.map fun (c, _) => .plain c) ++
      calls.flatMap Insert.Call.supplied)
  | .update table calls => .plain table :: calls.flatMap Update.Call.supplied
  | @updateOf s r calls => .plain s.table :: ((r.writableValues.map fun (c, _) => .plain c) ++
      calls.flatMap Update.Call.supplied)

/-- The parts of the statement in the order of SQL, each value with the fragment it came with. -/
def layout : Construction → List Part
  | .select table calls =>
    ((Select.ofTable table).run calls).layout (calls.filterMap Select.Call.condition?)
      (calls.reverse.findSome? Select.Call.limit?) (calls.reverse.findSome? Select.Call.offset?)
  | @insert s r calls =>
    Insert.layout s.table (r.writableValues ++ calls.filterMap Insert.Call.entry?)
      (calls.flatMap Insert.Call.returned)
  | .update table calls =>
    Update.layout table (calls.filterMap Update.Call.setter?)
      (calls.filterMap Update.Call.condition?) (calls.flatMap Update.Call.returned)
  | @updateOf s r calls =>
    Update.layout s.table
      ((r.writableValues.map fun (c, v) => { text := c ++ " = ?", values := [v] }) ++
        calls.filterMap Update.Call.setter?)
      (calls.filterMap Update.Call.condition?) (calls.flatMap Update.Call.returned)

theorem consists_select {table : String} {calls : List Select.Call}
    (h : ∀ f ∈ (select table calls).supplied, f.Sound) :
    (select table calls).build.Consists (select table calls).layout := by
  obtain ⟨htable, hcalls⟩ := List.forall_mem_cons.mp h
  have hstart : (Select.ofTable table).Clean := by
    constructor <;> simp [Select.ofTable, htable.raw]
  have hclean := (hstart.run hcalls).allAligned
  obtain ⟨hconditions, hlimit, hoffset⟩ := Select.run_ofTable table calls
  rw [build, Select.build, Select.text_eq, Select.values_eq, layout, ← hconditions, ← hlimit,
    ← hoffset]
  exact Statement.consists_ofMarked hclean

theorem consists_insert {s : Shape} {r : Record s} {calls : List Insert.Call}
    (h : ∀ f ∈ (insert r calls).supplied, f.Sound) :
    (insert r calls).build.Consists (insert r calls).layout := by
  obtain ⟨htable, hrest⟩ := List.forall_mem_cons.mp h
  obtain ⟨hwritable, hcalls⟩ := List.forall_mem_append.mp hrest
  have hentries : ∀ e ∈ r.writableValues ++ calls.filterMap Insert.Call.entry?, Raw e.1 := by
    refine List.forall_mem_append.mpr ⟨fun e he => ?_, fun e he => ?_⟩
    · exact (hwritable _ (List.mem_map_of_mem he)).raw
    · obtain ⟨c, hc, hentry⟩ := List.mem_filterMap.mp he
      cases c with
      | value column v =>
        obtain rfl := Option.some.inj hentry
        exact (hcalls _ (List.mem_flatMap.mpr ⟨_, hc, List.mem_singleton.mpr rfl⟩)).raw
      | returning columns => cases hentry
  have hreturning : ∀ c ∈ calls.flatMap Insert.Call.returned, Raw c := by
    intro column hcolumn
    obtain ⟨c, hc, hm⟩ := List.mem_flatMap.mp hcolumn
    cases c with
    | value _ _ => cases hm
    | returning columns =>
      exact (hcalls _ (List.mem_flatMap.mpr ⟨_, hc, List.mem_map_of_mem hm⟩)).raw
  have hrun : (Insert.ofRecord r).run calls =
      { table := s.table
        columns := (r.writableValues ++ calls.filterMap Insert.Call.entry?).map Prod.fst
        values := (r.writableValues ++ calls.filterMap Insert.Call.entry?).map Prod.snd
        returning := calls.flatMap Insert.Call.returned } := by
    rw [Insert.run_eq, Insert.ofRecord, List.unzip_eq_map, List.map_append, List.map_append]
    rfl
  rw [build, Insert.build, hrun, Insert.text_eq rfl, layout,
    ← Insert.allValues_layout s.table _ (calls.flatMap Insert.Call.returned)]
  exact Statement.consists_ofMarked (Insert.allAligned_layout htable.raw hentries hreturning)

theorem consists_update {table : String} {calls : List Update.Call}
    (h : ∀ f ∈ (update table calls).supplied, f.Sound) :
    (update table calls).build.Consists (update table calls).layout := by
  obtain ⟨htable, hcalls⟩ := List.forall_mem_cons.mp h
  have hcall {c : Update.Call} (hc : c ∈ calls) : ∀ f ∈ c.supplied, f.Sound :=
    fun f hf => hcalls f (List.mem_flatMap.mpr ⟨c, hc, hf⟩)
  have hsetters : ∀ f ∈ calls.filterMap Update.Call.setter?, Aligned f.text.toList f.values := by
    intro f hf
    obtain ⟨c, hc, hsetter⟩ := List.mem_filterMap.mp hf
    cases c with
    | set column v =>
      obtain rfl := Option.some.inj hsetter
      exact Update.aligned_setter (hcall hc _ (List.mem_singleton.mpr rfl)).raw v
    | setRaw setter =>
      obtain rfl := Option.some.inj hsetter
      exact (hcall hc _ (List.mem_singleton.mpr rfl)).raw
    | filter _ => cases hsetter
    | returning _ => cases hsetter
  have hconditions :
      ∀ c ∈ calls.filterMap Update.Call.condition?, Aligned c.text.toList c.values := by
    intro condition hm
    obtain ⟨c, hc, hcondition⟩ := List.mem_filterMap.mp hm
    cases c with
    | filter c =>
      obtain rfl := Option.some.inj hcondition
      exact (hcall hc _ (List.mem_singleton.mpr rfl)).aligned
    | set _ _ => cases hcondition
    | setRaw _ => cases hcondition
    | returning _ => cases hcondition
  have hreturning : ∀ c ∈ calls.flatMap Update.Call.returned, Raw c := by
    intro column hcolumn
    obtain ⟨c, hc, hm⟩ := List.mem_flatMap.mp hcolumn
    cases c with
    | returning columns => exact (hcall hc _ (List.mem_map_of_mem hm)).raw
    | set _ _ => cases hm
    | setRaw _ => cases hm
    | filter _ => cases hm
  rw [build, Update.build, Update.run_ofTable, Update.text_eq rfl, layout,
    ← Update.allValues_layout table _ _ (calls.flatMap Update.Call.returned)]
  exact Statement.consists_ofMarked
    (Update.allAligned_layout htable.raw hsetters hconditions hreturning)

theorem updateOf_eq {s : Shape} (r : Record s) (calls : List Update.Call) :
    let sets := r.writableValues.map fun (c, v) => Update.Call.set c v
    (updateOf r calls).build = (update s.table (sets ++ calls)).build ∧
      (updateOf r calls).supplied = (update s.table (sets ++ calls)).supplied ∧
      (updateOf r calls).layout = (update s.table (sets ++ calls)).layout := by
  refine ⟨?_, ?_, ?_⟩
  · rw [build, build, Update.run, Update.run, List.foldl_append, List.foldl_map]
    rfl
  · rw [supplied, supplied, List.flatMap_append, List.flatMap_map, List.map_eq_flatMap]
    rfl
  · have hnone : r.writableValues.flatMap (fun _ => ([] : List String)) = [] :=
      List.flatMap_eq_nil_iff.mpr fun _ _ => rfl
    simp [layout, List.filterMap_map, List.flatMap_map, Function.comp_def, Update.Call.setter?,
      Update.Call.condition?, Update.Call.returned, hnone]

theorem consists_updateOf {s : Shape} {r : Record s} {calls : List Update.Call}
    (h : ∀ f ∈ (updateOf r calls).supplied, f.Sound) :
    (updateOf r calls).build.Consists (updateOf r calls).layout := by
  obtain ⟨hbuild, hsupplied, hlayout⟩ := updateOf_eq r calls
  rw [hbuild, hlayout]
  exact consists_update (hsupplied ▸ h)

/-- Whatever was called in whatever order, the markers of the built statement are `$1`, …, `$n`, and
each of them stands in the fragment that its value was supplied with. -/
theorem build_consists_of_supplied_parts (b : Construction) (h : ∀ f ∈ b.supplied, f.Sound) :
    b.build.Consists b.layout := by
  cases b with
  | select table calls => exact consists_select h
  | insert r calls => exact consists_insert h
  | update table calls => exact consists_update h
  | updateOf r calls => exact consists_updateOf h

/-- A setter comes after the condition, whose question marks are markers but for the doubled one. -/
def taggedUpdate : Construction :=
  .update "books" [.filter ⟨"id = ? AND tags ?? ?", [.of (.bigInt 4), .of (.string "new")]⟩,
    .setRaw "version = version + 1", .set "title" (.of (.string "Dune")), .returning ["version"]]

theorem taggedUpdate_consists :
    (∀ f ∈ taggedUpdate.supplied, f.Sound) ∧ taggedUpdate.build.Consists taggedUpdate.layout := by
  have h : ∀ f ∈ taggedUpdate.supplied, f.Sound := by decide
  exact ⟨h, build_consists_of_supplied_parts taggedUpdate h⟩

end Construction

end RowMap
