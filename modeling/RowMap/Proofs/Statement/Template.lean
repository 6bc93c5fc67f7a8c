import RowMap.Proofs.Statement.Marker
import RowMap.Statement.Template

/-!
# What a template becomes

`Splits` says which tokens a template has, without the reader that finds them, and `copied` what
the tokens become. The statement of a template is the copy of its tokens with the values of its
names, or the complaint about the first name that is not bound.
-/

namespace RowMap.Template

/-! ## The tokens of a template -/

/-- The text that a token was cut from. -/
def Token.source : Token → List Char
  | .cast => [':', ':']
  | .placeholder name => ':' :: name
  | .text c => [c]

/-- A template is cut from left to right: two colons, else a colon and a name that no name
character follows, else one character. -/
inductive Splits : List Char → List Token → Prop
  | nil : Splits [] []
  | cast {rest : List Char} {ts : List Token} : Splits rest ts →
      Splits (':' :: ':' :: rest) (.cast :: ts)
  | placeholder {name rest : List Char} {ts : List Token} : name ≠ [] →
      (∀ c ∈ name, isNameChar c = true) → (∀ c ∈ rest.head?, isNameChar c = false) →
      Splits rest ts → Splits (':' :: (name ++ rest)) (.placeholder name :: ts)
  | text {c : Char} {rest : List Char} {ts : List Token} :
      (c = ':' → ∀ d ∈ rest.head?, d ≠ ':' ∧ isNameChar d = false) →
      Splits rest ts → Splits (c :: rest) (.text c :: ts)

theorem tokens_text {c : Char} {rest : List Char}
    (h : c = ':' → ∀ d ∈ rest.head?, d ≠ ':' ∧ isNameChar d = false) :
    tokens (c :: rest) = .text c :: tokens rest := by
  by_cases hc : c = ':'
  · subst hc
    have hcast : ∀ more, rest = ':' :: more → False := by
      rintro more rfl
      exact (h rfl ':' rfl).1 rfl
    have hname : rest.takeWhile isNameChar = [] := by
      cases rest with
      | nil => rfl
      | cons d rest => exact List.takeWhile_cons_of_neg (by simp [(h rfl d rfl).2])
    rw [tokens.eq_3 _ hcast, hname]
  · exact tokens.eq_4 c rest (fun _ h _ => hc h) hc

theorem tokens_placeholder {name rest : List Char} (hne : name ≠ [])
    (hname : ∀ c ∈ name, isNameChar c = true) (hrest : ∀ c ∈ rest.head?, isNameChar c = false) :
    tokens (':' :: (name ++ rest)) = .placeholder name :: tokens rest := by
  obtain ⟨c, more, rfl⟩ := List.exists_cons_of_ne_nil hne
  have hcast : ∀ t, c :: more ++ rest = ':' :: t → False := by
    intro t h
    simp only [List.cons_append, List.cons.injEq] at h
    have hc := hname c List.mem_cons_self
    rw [h.1] at hc
    revert hc
    decide
  rw [tokens.eq_3 _ hcast, takeWhile_append_stop hname hrest]
  simp

theorem Splits.tokens_eq {text : List Char} {ts : List Token} (h : Splits text ts) :
    tokens text = ts := by
  induction h with
  | nil => simp [tokens]
  | cast _ ih => simp [tokens, ih]
  | placeholder hne hname hrest _ ih => rw [tokens_placeholder hne hname hrest, ih]
  | text h _ ih => rw [tokens_text h, ih]

theorem head_dropWhile_isNameChar (rest : List Char) :
    ∀ c ∈ (rest.dropWhile isNameChar).head?, isNameChar c = false := by
  intro c hc
  have h := List.head?_dropWhile_not isNameChar rest
  rw [Option.mem_def.mp hc] at h
  exact h

theorem splits_tokens (text : List Char) : Splits text (tokens text) := by
  induction text using tokens.induct with
  | case1 => rw [tokens]; exact .nil
  | case2 rest ih => rw [tokens]; exact .cast ih
  | case3 rest hcast hname ih =>
    have h : ':' = ':' → ∀ d ∈ rest.head?, d ≠ ':' ∧ isNameChar d = false := by
      intro _ d hd
      obtain ⟨more, rfl⟩ := List.head?_eq_some_iff.mp hd
      exact ⟨fun hc => hcast more (by rw [hc]), by simpa [List.takeWhile_cons] using hname⟩
    rw [tokens_text h]
    exact .text h ih
  | case4 rest hcast c name hname ih =>
    -- The name is the longest one; what is left starts behind it.
    have hall : ∀ d ∈ c :: name, isNameChar d = true :=
      fun d hd => List.mem_takeWhile_imp (hname ▸ hd)
    have hcut : rest = c :: name ++ rest.dropWhile isNameChar := by
      rw [← hname, List.takeWhile_append_dropWhile]
    have hdrop : rest.drop (name.length + 1) = rest.dropWhile isNameChar :=
      calc rest.drop (name.length + 1)
        _ = (c :: name ++ rest.dropWhile isNameChar).drop (c :: name).length := by rw [← hcut]; rfl
        _ = rest.dropWhile isNameChar := List.drop_left
    rw [hdrop] at ih
    rw [hcut, tokens_placeholder (by simp) hall (head_dropWhile_isNameChar rest)]
    exact .placeholder (by simp) hall (head_dropWhile_isNameChar rest) ih
  | case5 c rest hcast hcolon ih =>
    have h : c = ':' → ∀ d ∈ rest.head?, d ≠ ':' ∧ isNameChar d = false :=
      fun hc => absurd hc hcolon
    rw [tokens_text h]
    exact .text h ih

/-! ## What the tokens become -/

def Token.name? : Token → Option String
  | .placeholder name => some (String.ofList name)
  | _ => none

/-- The names of the placeholders, one for each of them. -/
def names (ts : List Token) : List String := ts.filterMap Token.name?

/-- The text that a token becomes when it is the placeholder of a number. -/
def Token.copy (number : Nat) : Token → List Char
  | .placeholder _ => marker number
  | t => t.source

/-- The tokens as they were cut, with `$i` for the `i`-th placeholder. -/
def copied (ts : List Token) : List Char :=
  (ts.zipIdx.map fun (t, k) => t.copy ((names (ts.take k)).length + 1)).flatten

/-- The tokens with the placeholders numbered from a number on. -/
def copiedFrom : Nat → List Token → List Char
  | _, [] => []
  | n, .placeholder _ :: rest => marker n ++ copiedFrom (n + 1) rest
  | n, t :: rest => t.source ++ copiedFrom n rest

theorem copiedFrom_cons (n : Nat) (t : Token) (rest : List Token) :
    copiedFrom n (t :: rest) = t.copy n ++ copiedFrom (n + (names [t]).length) rest := by
  cases t <;> rfl

theorem names_cons (t : Token) (rest : List Token) : names (t :: rest) = names [t] ++ names rest :=
  List.filterMap_append (l := [t])

theorem copiedFrom_eq (n : Nat) (ts : List Token) :
    copiedFrom n ts =
      (ts.zipIdx.map fun (t, k) => t.copy (n + (names (ts.take k)).length)).flatten := by
  induction ts generalizing n with
  | nil => rfl
  | cons t rest ih =>
    have hshift (k : Nat) : n + (names ((t :: rest).take (k + 1))).length =
        n + (names [t]).length + (names (rest.take k)).length := by
      rw [List.take_succ_cons, names_cons, List.length_append, Nat.add_assoc]
    rw [copiedFrom_cons, ih, List.zipIdx_cons, List.zipIdx_succ]
    simp only [List.map_cons, List.map_map, List.flatten_cons, Function.comp_def, hshift]
    rfl

theorem copied_eq (ts : List Token) : copied ts = copiedFrom 1 ts := by
  rw [copiedFrom_eq, copied]
  simp only [Nat.add_comm 1]

/-! ## One text behind the other -/

/-- What cannot go on with a token. -/
def Apart (text : List Char) : Prop := ∀ c ∈ text.head?, c ≠ ':' ∧ isNameChar c = false

theorem Splits.append {text more : List Char} {ts us : List Token} (h : Splits text ts)
    (hmore : Splits more us) (hapart : Apart more) : Splits (text ++ more) (ts ++ us) := by
  have hhead {rest : List Char} {P : Char → Prop} (hrest : ∀ c ∈ rest.head?, P c)
      (hnext : ∀ c ∈ more.head?, P c) : ∀ c ∈ (rest ++ more).head?, P c := by
    cases rest with
    | nil => exact hnext
    | cons d rest => exact hrest
  induction h with
  | nil => exact hmore
  | cast _ ih => exact .cast ih
  | @placeholder name rest ts hne hname hrest _ ih =>
    rw [List.cons_append, List.append_assoc]
    exact .placeholder hne hname (hhead hrest fun c hc => (hapart c hc).2) ih
  | @text c rest ts hrest _ ih =>
    exact .text (fun hc => hhead (hrest hc) hapart) ih

theorem tokens_append (text : List Char) {more : List Char} (h : Apart more) :
    tokens (text ++ more) = tokens text ++ tokens more :=
  ((splits_tokens text).append (splits_tokens more) h).tokens_eq

theorem tokens_plain_append {text : List Char} (h : ':' ∉ text) (more : List Char) :
    tokens (text ++ more) = text.map .text ++ tokens more := by
  induction text with
  | nil => rfl
  | cons c text ih =>
    obtain ⟨hc, htext⟩ := not_or.mp (mt List.mem_cons.mpr h)
    rw [List.cons_append, tokens_text fun heq => absurd heq.symm hc, ih htext]
    rfl

theorem tokens_plain {text : List Char} (h : ':' ∉ text) : tokens text = text.map .text := by
  have htokens := tokens_plain_append h []
  rwa [List.append_nil, tokens.eq_1, List.append_nil] at htokens

theorem names_append (ts us : List Token) : names (ts ++ us) = names ts ++ names us :=
  List.filterMap_append

theorem copiedFrom_append (n : Nat) (ts us : List Token) :
    copiedFrom n (ts ++ us) = copiedFrom n ts ++ copiedFrom (n + (names ts).length) us := by
  induction ts generalizing n with
  | nil => rfl
  | cons t ts ih =>
    have hlength : (names (t :: ts)).length = (names [t]).length + (names ts).length := by
      rw [names_cons, List.length_append]
    rw [List.cons_append, copiedFrom_cons, copiedFrom_cons, ih, hlength, List.append_assoc,
      Nat.add_assoc]

theorem names_plain (text : List Char) : names (text.map .text) = [] :=
  List.filterMap_eq_nil_iff.mpr fun t ht => by
    obtain ⟨c, -, rfl⟩ := List.mem_map.mp ht
    rfl

theorem copiedFrom_plain (n : Nat) (text : List Char) : copiedFrom n (text.map .text) = text := by
  induction text with
  | nil => rfl
  | cons c text ih => exact congrArg (c :: ·) ih

/-! ## Numbering -/

theorem map_some_filterMap {α β : Type} {f : α → Option β} {l : List α}
    (h : ∀ x ∈ l, (f x).isSome) : (l.filterMap f).map some = l.map f := by
  induction l with
  | nil => rfl
  | cons x l ih =>
    obtain ⟨y, hy⟩ := Option.isSome_iff_exists.mp (h x List.mem_cons_self)
    rw [List.filterMap_cons_some hy, List.map_cons, List.map_cons, hy,
      ih fun z hz => h z (List.mem_cons_of_mem _ hz)]

theorem number_of_bound (p : Parameters) (n : Nat) {ts : List Token}
    (h : ∀ name ∈ names ts, (p.get? name).isSome) :
    number p n ts = .ok (copiedFrom n ts, (names ts).filterMap p.get?) := by
  induction ts generalizing n with
  | nil => rfl
  | cons t rest ih =>
    rw [names_cons] at h
    have hrest : ∀ name ∈ names rest, (p.get? name).isSome :=
      fun name hm => h name (List.mem_append_right _ hm)
    cases t with
    | cast => rw [number, ih n hrest]; rfl
    | text c => rw [number, ih n hrest]; rfl
    | placeholder name =>
      obtain ⟨v, hv⟩ :=
      Option.isSome_iff_exists.mp (h (String.ofList name) (by simp [names, Token.name?]))
      simp only [number, hv, ih (n + 1) hrest, Except.map]
      rw [names_cons, List.filterMap_append]
      simp [names, Token.name?, hv, copiedFrom]

theorem number_of_unbound (p : Parameters) (n : Nat) {ts : List Token} {name : String}
    (h : (names ts).find? (fun m => (p.get? m).isNone) = some name) :
    number p n ts = .error (.missingParameter name) := by
  induction ts generalizing n with
  | nil => simp [names] at h
  | cons t rest ih =>
    cases t with
    | cast => rw [number, ih n h]; rfl
    | text c => rw [number, ih n h]; rfl
    | placeholder m =>
      rw [names_cons] at h
      cases hv : p.get? (String.ofList m) with
      | none =>
        have hm : String.ofList m = name := by simpa [names, Token.name?, hv] using h
        rw [← hm]
        simp only [number, hv]
      | some v =>
        have hrest : (names rest).find? (fun m => (p.get? m).isNone) = some name := by
          simpa [names, Token.name?, hv] using h
        simp only [number, hv, ih (n + 1) hrest, Except.map]

/-! ## Reading the numbers back -/

theorem isNameChar_of_isDigit {c : Char} (h : c.isDigit = true) : isNameChar c = true := by
  simp only [Char.isDigit, Bool.and_eq_true, decide_eq_true_eq] at h
  have hdigit : '0' ≤ c ∧ c ≤ '9' := h
  simp [isNameChar, hdigit]

theorem endsMarker_copiedFrom {text : List Char} {ts : List Token} (h : Splits text ts)
    (hhead : EndsMarker text) (n : Nat) : EndsMarker (copiedFrom n ts) := by
  cases h with
  | nil => exact hhead
  | cast _ => exact hhead
  | text _ _ => exact hhead
  | placeholder _ _ _ _ => exact endsMarker_marker_append n _

theorem markersIn_copiedFrom {text : List Char} {ts : List Token} (h : Splits text ts)
    (hdollar : '$' ∉ text) (n : Nat) :
    markersIn (copiedFrom n ts) = (List.range (names ts).length).map fun i => marker (n + i) := by
  induction h generalizing n with
  | nil => rfl
  | cast _ ih =>
    simp only [List.mem_cons, not_or] at hdollar
    exact ih hdollar.2.2 n
  | @text c rest ts _ _ ih =>
    simp only [List.mem_cons, not_or] at hdollar
    have hc : '$' ∉ Token.source (.text c) := by simpa [Token.source] using hdollar.1
    exact (markersIn_append_of_not_mem hc _).trans (ih hdollar.2 n)
  | @placeholder name rest ts _ _ hrest hsplit ih =>
    have hends : EndsMarker rest := by
      intro c hc
      refine Bool.eq_false_iff.mpr fun hd => ?_
      exact absurd (isNameChar_of_isDigit hd) (by simp [hrest c hc])
    have hdollar : '$' ∉ rest := fun hm => hdollar (by simp [hm])
    rw [copiedFrom, markersIn_marker_append n (endsMarker_copiedFrom hsplit hends _), ih hdollar]
    simp only [names, Token.name?, List.filterMap_cons, List.length_cons, List.range_succ_eq_map,
      List.map_cons, List.map_map]
    simp [Function.comp_def, Nat.add_assoc, Nat.add_comm 1]

/-! ## The statement of a template -/

theorem statement_is_numbered_copy (p : Parameters) (template : String) :
    ∃ ts, Splits template.toList ts ∧ (∀ us, Splits template.toList us → us = ts) ∧
      ((∀ name ∈ names ts, (p.get? name).isSome) →
        ∃ s, p.statement template = .ok s ∧ s.sql.toList = copied ts ∧
          s.values.map some = (names ts).map p.get? ∧
          ('$' ∉ template.toList → markersIn s.sql.toList = markersUpTo s.values.length)) ∧
      ∀ name, (names ts).find? (fun m => (p.get? m).isNone) = some name →
        p.statement template = .error (.missingParameter name) := by
  have hsplit := splits_tokens template.toList
  refine ⟨_, hsplit, fun us h => h.tokens_eq.symm, fun h => ?_, fun name h => ?_⟩
  · have hvalues := map_some_filterMap h
    refine ⟨_, by rw [Parameters.statement, number_of_bound p 1 h]; rfl, ?_, hvalues, fun hd => ?_⟩
    · rw [String.toList_ofList, copied_eq]
    · have hcount : ((names (tokens template.toList)).filterMap p.get?).length =
          (names (tokens template.toList)).length := by
        simpa using congrArg List.length hvalues
      rw [String.toList_ofList, markersIn_copiedFrom hsplit hd, markersUpTo, hcount]
      simp only [Nat.add_comm 1]
  · rw [Parameters.statement, number_of_unbound p 1 h]
    rfl

end RowMap.Template
