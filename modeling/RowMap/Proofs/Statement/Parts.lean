import RowMap.Proofs.Statement.Marked
import RowMap.Statement.Condition

/-!
# Texts in parts

A statement is put together of fragments with words of its own in front of each. When every fragment
has as many markers as values, numbering the whole text numbers each fragment on its own: the
markers go on from fragment to fragment, and a fragment's markers get the values that were supplied
with it.
-/

namespace RowMap

/-! ## Numbering one part after the other -/

theorem numbered_append (n : Nat) (ss ts : List Sign) :
    numbered n (ss ++ ts) = numbered n ss ++ numbered (n + markerCount ss) ts := by
  induction ss generalizing n with
  | nil => rfl
  | cons s ss ih =>
    cases s with
    | char c =>
      have hcount : markerCount (.char c :: ss) = markerCount ss := by simp [markerCount]
      simp only [List.cons_append, numbered, ih, hcount]
    | marker =>
      have hcount : n + markerCount (.marker :: ss) = n + 1 + markerCount ss := by
        simp only [markerCount, List.count_cons_self]
        omega
      simp only [List.cons_append, numbered, ih, hcount, List.append_assoc]

/-- The markers from a number on, one for each of some values. -/
def markersFrom (number count : Nat) : List (List Char) :=
  (List.range count).map fun j => marker (number + j)

theorem markersFrom_succ (number count : Nat) :
    markersFrom number (count + 1) = marker number :: markersFrom (number + 1) count := by
  rw [markersFrom, List.range_succ_eq_map, List.map_cons, List.map_map]
  refine congrArg _ (List.map_congr_left fun j _ => ?_)
  rw [Function.comp_apply, Nat.succ_eq_add_one, Nat.add_right_comm, Nat.add_assoc]

theorem markersUpTo_eq (count : Nat) : markersUpTo count = markersFrom 1 count :=
  List.map_congr_left fun i _ => by rw [Nat.add_comm i 1]

theorem markersIn_numbered {ss : List Sign} (hapart : Apart ss) (hdollar : .char '$' ∉ ss)
    (n : Nat) : markersIn (numbered n ss) = markersFrom n (markerCount ss) := by
  induction ss generalizing n with
  | nil => rfl
  | cons s ss ih =>
    have hrest := ih hapart.tail fun h => hdollar (List.mem_cons_of_mem _ h)
    cases s with
    | char c =>
      have hc : c ≠ '$' := by rintro rfl; exact hdollar List.mem_cons_self
      have hcount : markerCount (.char c :: ss) = markerCount ss := by simp [markerCount]
      rw [numbered, markersIn, if_neg hc, hrest, hcount]
    | marker =>
      have hcount : markerCount (.marker :: ss) = markerCount ss + 1 := by simp [markerCount]
      rw [numbered, markersIn_marker_append n (endsMarker_numbered hapart _), hrest, hcount,
        markersFrom_succ]

/-! ## Fragments -/

/-- A text as it was supplied, with the values that were supplied for its markers. -/
structure Fragment where
  text : String
  values : List Value := []

/-- The fragment has a value for every marker, and nothing in it looks like a numbered marker or
changes the number of one. -/
structure Fragment.Sound (f : Fragment) : Prop where
  count : markerCount (signs f.text.toList) = f.values.length
  noDollar : '$' ∉ f.text.toList
  noDigit : f.text.toList.IsChain fun c d => c = '?' → d.isDigit = false

instance (f : Fragment) : Decidable f.Sound :=
  decidable_of_iff (markerCount (signs f.text.toList) = f.values.length ∧ '$' ∉ f.text.toList ∧
      f.text.toList.IsChain fun c d => c = '?' → d.isDigit = false)
    ⟨fun ⟨count, noDollar, noDigit⟩ => ⟨count, noDollar, noDigit⟩,
      fun h => ⟨h.count, h.noDollar, h.noDigit⟩⟩

theorem mem_of_char_mem_signs {c : Char} {text : List Char} (h : .char c ∈ signs text) :
    c ∈ text := by
  induction text using signs.induct with
  | case1 => simp [signs] at h
  | case2 rest ih =>
    simp only [signs, List.mem_cons, Sign.char.injEq] at h ⊢
    exact h.elim .inl fun h => .inr (.inr (ih h))
  | case3 rest hpair ih =>
    rw [signs.eq_3 _ hpair] at h
    simp only [List.mem_cons, reduceCtorEq, false_or] at h
    exact List.mem_cons_of_mem _ (ih h)
  | case4 d rest _ hd ih =>
    rw [signs_cons hd] at h
    simp only [List.mem_cons, Sign.char.injEq] at h ⊢
    exact h.imp_right ih

theorem apart_signs {text : List Char}
    (h : text.IsChain fun c d => c = '?' → d.isDigit = false) : Apart (signs text) := by
  induction text using signs.induct with
  | case1 => exact .nil
  | case2 rest ih =>
    exact List.isChain_cons.mpr ⟨fun _ _ => rfl, ih h.tail.tail⟩
  | case3 rest hpair ih =>
    rw [signs.eq_3 _ hpair]
    refine List.isChain_cons.mpr ⟨fun t ht => ?_, ih h.tail⟩
    -- What stands behind the marker is no question mark, so its sign is the character itself.
    cases rest with
    | nil => simp [signs] at ht
    | cons d rest =>
      have hd : d ≠ '?' := by rintro rfl; exact hpair rest rfl
      rw [signs_cons hd, List.head?_cons, Option.mem_some_iff] at ht
      subst ht
      exact (List.isChain_cons_cons.mp h).1 rfl
  | case4 d rest _ hd ih =>
    rw [signs_cons hd]
    exact List.isChain_cons.mpr ⟨fun _ _ => rfl, ih h.tail⟩

theorem Fragment.Sound.aligned {f : Fragment} (h : f.Sound) : Aligned f.text.toList f.values :=
  ⟨h.count, apart_signs h.noDigit, fun hm => h.noDollar (mem_of_char_mem_signs hm)⟩

/-! ## Parts -/

/-- Words of a statement that bind no value and keep apart what stands on their sides. -/
structure IsLead (text : String) : Prop where
  ne_nil : text.toList ≠ []
  noMark : '?' ∉ text.toList
  noDollar : '$' ∉ text.toList
  noDigit : ∀ c ∈ text.toList.head?, c.isDigit = false

instance (text : String) : Decidable (IsLead text) :=
  decidable_of_iff (text.toList ≠ [] ∧ '?' ∉ text.toList ∧ '$' ∉ text.toList ∧
      text.toList.head?.all fun c => !c.isDigit) <| by
    have hall : (text.toList.head?.all fun c => !c.isDigit) = true ↔
        ∀ c ∈ text.toList.head?, c.isDigit = false := by
      cases text.toList.head? <;> simp
    rw [hall]
    exact ⟨fun ⟨ne_nil, noMark, noDollar, noDigit⟩ => ⟨ne_nil, noMark, noDollar, noDigit⟩,
      fun h => ⟨h.ne_nil, h.noMark, h.noDollar, h.noDigit⟩⟩

theorem isLead_comma : IsLead ", " := by decide

structure Part extends Fragment where
  lead : String
  isLead : IsLead lead := by decide

/-- The fragment with its markers numbered from a number on. -/
def Fragment.copy (f : Fragment) (number : Nat) : List Char := numbered number (signs f.text.toList)

namespace Part

/-- The text of parts before it is numbered. -/
def marked (ps : List Part) : String := String.join (ps.map fun p => p.lead ++ p.text)

def allValues (ps : List Part) : List Value := ps.flatMap fun p => p.values

def copies : Nat → List Part → List Char
  | _, [] => []
  | n, p :: rest => p.lead.toList ++ p.copy n ++ copies (n + p.values.length) rest

theorem marked_cons (p : Part) (ps : List Part) :
    (marked (p :: ps)).toList = p.lead.toList ++ (p.text.toList ++ (marked ps).toList) := by
  simp only [marked, List.map_cons, String.join_cons, String.toList_append, List.append_assoc]

theorem marked_append (ps qs : List Part) : marked (ps ++ qs) = marked ps ++ marked qs := by
  simp only [marked, List.map_append, String.join_append]

theorem allValues_append (ps qs : List Part) :
    allValues (ps ++ qs) = allValues ps ++ allValues qs :=
  List.flatMap_append

theorem copies_append (n : Nat) (ps qs : List Part) :
    copies n (ps ++ qs) = copies n ps ++ copies (n + (allValues ps).length) qs := by
  induction ps generalizing n with
  | nil => rfl
  | cons p ps ih =>
    simp only [List.cons_append, copies, ih, List.append_assoc, allValues, List.flatMap_cons,
      List.length_append, Nat.add_assoc]

theorem parts_lead {lead : String} (h : IsLead lead) (rest : List Char) :
    Parts (lead.toList ++ rest) := by
  obtain ⟨c, more, hlead⟩ := List.exists_cons_of_ne_nil h.ne_nil
  intro d hd
  rw [hlead, List.cons_append, List.head?_cons, Option.mem_some_iff] at hd
  subst hd
  refine ⟨?_, h.noDigit _ (by rw [hlead]; rfl)⟩
  rintro rfl
  exact h.noMark (by rw [hlead]; exact List.mem_cons_self)

theorem parts_marked (ps : List Part) : Parts (marked ps).toList := by
  cases ps with
  | nil => simp [Parts, marked]
  | cons p ps =>
    rw [marked_cons]
    exact parts_lead p.isLead _

/-- Every part is aligned with its own values. -/
def AllAligned (ps : List Part) : Prop := ∀ p ∈ ps, Aligned p.text.toList p.values

theorem AllAligned.append {ps qs : List Part} (hp : AllAligned ps) (hq : AllAligned qs) :
    AllAligned (ps ++ qs) := List.forall_mem_append.mpr ⟨hp, hq⟩

theorem AllAligned.marked {ps : List Part} (h : AllAligned ps) :
    Aligned (marked ps).toList (allValues ps) := by
  induction ps with
  | nil => exact aligned_nil
  | cons p ps ih =>
    obtain ⟨hp, hps⟩ := List.forall_mem_cons.mp h
    rw [marked_cons]
    exact .literal_append p.isLead.noMark p.isLead.noDollar (hp.append (ih hps) (parts_marked ps))

theorem AllAligned.numbered_marked {ps : List Part} (h : AllAligned ps) (n : Nat) :
    numbered n (signs (Part.marked ps).toList) = copies n ps := by
  induction ps generalizing n with
  | nil => rfl
  | cons p ps ih =>
    obtain ⟨hp, hps⟩ := List.forall_mem_cons.mp h
    rw [marked_cons, signs_literal_append p.isLead.noMark, numbered_chars_append,
      signs_append _ (parts_marked ps).head_ne, numbered_append, hp.count, ih hps, copies,
      List.append_assoc]
    rfl

end Part

/-! ## Statements in parts -/

/-- A statement consists of parts: their markers are numbered through, and each marker of a part
has the value that was supplied for it. -/
structure Statement.Consists (s : Statement) (ps : List Part) : Prop where
  markers : markersIn s.sql.toList = markersUpTo s.values.length
  values : s.values = Part.allValues ps
  part : ∀ (before : List Part) (p : Part) (after : List Part), ps = before ++ p :: after →
    ∃ k, k = (Part.allValues before).length ∧
      s.sql.toList = Part.copies 1 before ++ (p.lead.toList ++ p.copy (k + 1) ++
        Part.copies (k + 1 + p.values.length) after) ∧
      markersIn (Part.copies 1 before) = markersUpTo k ∧
      markersIn (p.copy (k + 1)) = markersFrom (k + 1) p.values.length ∧
      ∀ j, j < p.values.length → s.values[k + j]? = p.values[j]?

theorem Statement.consists_ofMarked {ps : List Part} (h : Part.AllAligned ps) :
    (Statement.ofMarked (Part.marked ps) (Part.allValues ps)).Consists ps := by
  have hsql : (Statement.ofMarked (Part.marked ps) (Part.allValues ps)).sql.toList =
      Part.copies 1 ps := by
    rw [Statement.ofMarked, String.toList_ofList, renumber, renumberFrom_eq, h.numbered_marked]
  have hmarkers (qs : List Part) (hq : Part.AllAligned qs) :
      markersIn (Part.copies 1 qs) = markersUpTo (Part.allValues qs).length := by
    rw [← hq.numbered_marked, markersIn_numbered hq.marked.apart hq.marked.noDollar,
      hq.marked.count, markersUpTo_eq]
  refine ⟨?_, rfl, fun before p after heq => ⟨_, rfl, ?_, ?_, ?_, fun j hj => ?_⟩⟩
  · rw [hsql]
    exact hmarkers ps h
  · rw [hsql, heq, Part.copies_append, Part.copies, Nat.add_comm 1]
  · exact hmarkers before fun q hq => h q (by rw [heq]; exact List.mem_append_left _ hq)
  · have hp : Aligned p.text.toList p.values := h p (by simp [heq])
    rw [Fragment.copy, markersIn_numbered hp.apart hp.noDollar, hp.count]
  · have hvalues : Part.allValues ps =
        Part.allValues before ++ (p.values ++ Part.allValues after) := by
      simp [heq, Part.allValues]
    rw [Statement.ofMarked, hvalues, List.getElem?_append_right (by omega), Nat.add_sub_cancel_left,
      List.getElem?_append_left hj]

/-! ## Lists in a text -/

namespace Part

/-- Fragments with words in front of the first one and between them. -/
def listed (first between : String) (hfirst : IsLead first) (hbetween : IsLead between) :
    List Fragment → List Part
  | [] => []
  | f :: rest => ⟨f, first, hfirst⟩ :: rest.map fun g => ⟨g, between, hbetween⟩

variable {first between : String} {hfirst : IsLead first} {hbetween : IsLead between}

theorem marked_followers (fs : List Fragment) :
    marked (fs.map fun g => ⟨g, between, hbetween⟩) =
      String.join (fs.map fun g => between ++ g.text) := by
  simp only [marked, List.map_map, Function.comp_def]

theorem intercalate_cons_eq (between text : String) (texts : List String) :
    between.intercalate (text :: texts) = text ++ String.join (texts.map (between ++ ·)) := by
  induction texts generalizing text with
  | nil => simp
  | cons u texts ih =>
    rw [String.intercalate_cons_cons, ih, List.map_cons, String.join_cons]
    simp only [String.append_assoc]

theorem marked_listed (fs : List Fragment) :
    marked (listed first between hfirst hbetween fs) =
      if fs.isEmpty then "" else first ++ between.intercalate (fs.map Fragment.text) := by
  cases fs with
  | nil => rfl
  | cons f fs =>
    have hmarked : marked (listed first between hfirst hbetween (f :: fs)) =
        first ++ f.text ++ marked (fs.map fun g => ⟨g, between, hbetween⟩) := by
      simp only [listed, marked, List.map_cons, String.join_cons]
    rw [hmarked, marked_followers, List.isEmpty_cons, if_neg (by decide), List.map_cons,
      intercalate_cons_eq, List.map_map, String.append_assoc]
    rfl

theorem allValues_listed (fs : List Fragment) :
    allValues (listed first between hfirst hbetween fs) = fs.flatMap Fragment.values := by
  cases fs with
  | nil => rfl
  | cons f fs => simp [listed, allValues, List.flatMap_map]

theorem allAligned_listed {fs : List Fragment} (h : ∀ f ∈ fs, Aligned f.text.toList f.values) :
    AllAligned (listed first between hfirst hbetween fs) := by
  cases fs with
  | nil => simp [AllAligned, listed]
  | cons f fs =>
    obtain ⟨hf, hfs⟩ := List.forall_mem_cons.mp h
    refine List.forall_mem_cons.mpr ⟨hf, fun p hp => ?_⟩
    obtain ⟨g, hg, rfl⟩ := List.mem_map.mp hp
    exact hfs g hg

end Part

end RowMap
