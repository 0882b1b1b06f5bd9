import Mathlib.Data.List.TakeWhile
import Tangle.Path
import Tangle.Proofs.Text

/-!
# Paths taken apart and joined

A path is a front and what follows its last slash. Two paths are read alike if they have the same
head and the same names. The parent of a path has its head and all names but the last, and joining a
name to it puts that name in the place of the last one.
-/

namespace Tangle.Path

/-! ## Fronts and names -/

/-- A name that a file or directory can have. -/
structure IsName (name : Text) : Prop where
  ne_nil : name ≠ []
  ne_dot : name ≠ ['.']
  ne_dots : name ≠ ['.', '.']
  slash : '/' ∉ name

instance (name : Text) : Decidable (IsName name) :=
  decidable_of_iff (name ≠ [] ∧ name ≠ ['.'] ∧ name ≠ ['.', '.'] ∧ '/' ∉ name)
    ⟨fun ⟨hnil, hdot, hdots, hslash⟩ => ⟨hnil, hdot, hdots, hslash⟩,
      fun ⟨hnil, hdot, hdots, hslash⟩ => ⟨hnil, hdot, hdots, hslash⟩⟩

/-- What can stand before a name in a path: nothing, or a text that ends in a slash. -/
def IsFront (front : Text) : Prop := front = [] ∨ ∃ text, front = text ++ ['/']

/-- Every path is a front and what follows the last slash. -/
theorem exists_front (path : Text) :
    ∃ front last, path = front ++ last ∧ IsFront front ∧ '/' ∉ last := by
  cases hsplit : path.splitLast? '/' with
  | none =>
    refine ⟨[], path, rfl, Or.inl rfl, fun hmem => ?_⟩
    -- a slash in the path would be found
    rw [Text.splitLast?, Option.map_eq_none_iff, Text.splitFirst?] at hsplit
    cases hdrop : path.reverse.dropWhile (· ≠ '/') with
    | nil =>
      have hall := List.dropWhile_eq_nil_iff.mp hdrop '/' (List.mem_reverse.mpr hmem)
      simp at hall
    | cons c rest =>
      rw [hdrop] at hsplit
      cases hsplit
  | some parts =>
    obtain ⟨before, after⟩ := parts
    obtain ⟨hpath, hslash⟩ := Text.of_splitLast?_eq_some hsplit
    exact ⟨before ++ ['/'], after, by simpa using hpath, Or.inr ⟨before, rfl⟩, hslash⟩

theorem names_append_slash (path more : Text) :
    names (path ++ '/' :: more) = names path ++ names more := by
  rw [names, Text.splitOn_append_cons, List.filter_append]
  rfl

theorem names_slash_end (path : Text) : names (path ++ ['/']) = names path := by
  rw [names_append_slash]
  exact List.append_nil _

theorem splitOn_front {front last : Text} (hfront : IsFront front) (hlast : '/' ∉ last) :
    ∃ parts, Text.splitOn '/' (front ++ last) = parts ++ [last] ∧
      names front = parts.filter fun name => !name.isEmpty && name ≠ ['.'] := by
  rcases hfront with rfl | ⟨text, rfl⟩
  · exact ⟨[], by simpa using Text.splitOn_of_notMem hlast, rfl⟩
  · refine ⟨Text.splitOn '/' text, ?_, names_slash_end text⟩
    rw [List.append_assoc, List.singleton_append, Text.splitOn_append_cons,
      Text.splitOn_of_notMem hlast]

/-- What follows a front is one of the names of a path, also when it is two dots. -/
theorem names_append_last {front last : Text} (hfront : IsFront front) (hne : last ≠ [])
    (hdot : last ≠ ['.']) (hslash : '/' ∉ last) :
    names (front ++ last) = names front ++ [last] := by
  obtain ⟨parts, hparts, hnames⟩ := splitOn_front hfront hslash
  rw [names, hparts, List.filter_append, hnames]
  simp [hne, hdot]

theorem names_append {front name : Text} (hfront : IsFront front) (hname : IsName name) :
    names (front ++ name) = names front ++ [name] :=
  names_append_last hfront hname.ne_nil hname.ne_dot hname.slash

/-- Whether a path is absolute is seen from its front. -/
theorem isAbsolute_append {front last : Text} (hfront : IsFront front) (hlast : '/' ∉ last) :
    isAbsolute (front ++ last) = isAbsolute front := by
  rcases hfront with rfl | ⟨text, rfl⟩
  · cases last with
    | nil => rfl
    | cons c rest =>
      have hc : c ≠ '/' := fun h => hlast (h ▸ List.mem_cons_self)
      simp [isAbsolute, hc]
  · cases text <;> rfl

/-! ## Joining -/

/-- The front that a base makes for names below it. -/
def frontOf (base : Text) : Text :=
  if base.isEmpty || base.getLast? = some '/' then base else base ++ ['/']

theorem join_of_slash_notMem (base : Text) {name : Text} (h : '/' ∉ name) :
    join base name = frontOf base ++ name := by
  have habsolute : isAbsolute name = false := isAbsolute_append (Or.inl rfl) h
  rw [join, habsolute, if_neg Bool.false_ne_true, frontOf]
  split
  · rfl
  · rw [List.append_assoc, List.singleton_append]

theorem isFront_frontOf (base : Text) : IsFront (frontOf base) := by
  rw [frontOf]
  split
  · rename_i h
    rw [Bool.or_eq_true, List.isEmpty_iff, decide_eq_true_eq] at h
    rcases h with h | h
    · exact Or.inl h
    · exact Or.inr (List.getLast?_eq_some_iff.mp h)
  · exact Or.inr ⟨base, rfl⟩

theorem names_frontOf (base : Text) : names (frontOf base) = names base := by
  rw [frontOf]
  split
  · rfl
  · exact names_slash_end base

theorem isAbsolute_frontOf (base : Text) : isAbsolute (frontOf base) = isAbsolute base := by
  rw [frontOf]
  split
  · rfl
  · rename_i h
    cases base with
    | nil => simp at h
    | cons c rest => rfl

theorem mem_frontOf {base : Text} {c : Char} (h : c ∈ frontOf base) : c ∈ base ∨ c = '/' := by
  rw [frontOf] at h
  split at h
  · exact Or.inl h
  · simpa using h

theorem notMem_frontOf_append {base name : Text} {c : Char} (hslash : c ≠ '/') (hbase : c ∉ base)
    (hname : c ∉ name) : c ∉ frontOf base ++ name := by
  intro hmem
  rcases List.mem_append.mp hmem with hmem | hmem
  · rcases mem_frontOf hmem with hmem | hmem
    · exact hbase hmem
    · exact hslash hmem
  · exact hname hmem

theorem suffix_join (base path : Text) : path <:+ join base path := by
  rw [join]
  split
  · exact List.suffix_rfl
  · split
    · exact List.suffix_append ..
    · exact (List.suffix_cons ..).trans (List.suffix_append ..)

/-- A text without a slash at the end of a path is at the end of its last name. -/
theorem suffix_of_suffix_append {ending front last : Text} (hfront : IsFront front)
    (hslash : '/' ∉ ending) (h : ending <:+ front ++ last) : ending <:+ last := by
  rcases List.suffix_or_suffix_of_suffix h (List.suffix_append front last) with hshort | hlong
  · exact hshort
  · -- a longer end would reach over the slash
    obtain ⟨before, rfl⟩ := hlong
    rcases hfront with rfl | ⟨text, rfl⟩
    · exact h
    · rcases List.eq_nil_or_concat before with rfl | ⟨start, c, rfl⟩
      · exact List.suffix_rfl
      · obtain ⟨rest, hrest⟩ := h
        rw [← List.append_assoc] at hrest
        have hlast := List.append_cancel_right hrest
        rw [List.concat_eq_append, ← List.append_assoc] at hlast
        obtain ⟨-, hc⟩ := List.append_inj' hlast rfl
        obtain rfl := List.singleton_inj.mp hc
        exact absurd (by simp) hslash

/-! ## Heads -/

@[simp] theorem head_nil : head [] = [] := rfl

@[simp] theorem head_singleton (c : Char) : head [c] = if c = '/' ∨ c = '.' then [c] else [] := by
  by_cases hslash : c = '/'
  · simp [hslash, head, isAbsolute]
  by_cases hdot : c = '.'
  · simp [hdot, head, startsAtDot]
  · simp [hslash, hdot, head, isAbsolute, startsAtDot]

/-- The first two characters decide. -/
@[simp] theorem head_cons_cons (c d : Char) (rest : Text) :
    head (c :: d :: rest) = if c = '/' ∨ c = '.' ∧ d = '/' then [c] else [] := by
  by_cases hslash : c = '/'
  · simp [hslash, head, isAbsolute]
  -- a dot counts only in front of a slash
  by_cases hdot : c = '.' ∧ d = '/'
  · simp [hdot, head, startsAtDot]
  · have hstart : startsAtDot (c :: d :: rest) = false := by
      unfold startsAtDot
      split
      · simp_all
      · simp_all
      · rfl
    simp [hslash, hdot, head, isAbsolute, hstart]

/-- A path has no head, or begins with it. -/
theorem head_cases (path : Text) :
    head path = [] ∨ (∃ rest, path = '/' :: rest ∧ head path = ['/']) ∨ path = ['.'] ∨
      ∃ rest, path = '.' :: '/' :: rest ∧ head path = ['.'] := by
  match path with
  | [] => exact Or.inl rfl
  | [c] =>
    by_cases hslash : c = '/'
    · simp [hslash]
    by_cases hdot : c = '.'
    · simp [hdot]
    · simp [hslash, hdot]
  | c :: d :: rest =>
    by_cases hslash : c = '/'
    · simp [hslash]
    by_cases hdot : c = '.' ∧ d = '/'
    · simp [hdot]
    · simp [hslash, hdot]

theorem head_append_drop (path : Text) : head path ++ path.drop (head path).length = path := by
  rcases head_cases path with hhead | ⟨rest, rfl, hhead⟩ | rfl | ⟨rest, rfl, hhead⟩
  · rw [hhead]
    rfl
  · rw [hhead]
    rfl
  · rfl
  · rw [hhead]
    rfl

/-- The head tells whether a path is absolute. -/
theorem isAbsolute_of_head_eq {path other : Text} (h : head path = head other) :
    isAbsolute path = isAbsolute other := by
  have hslash (path : Text) : isAbsolute path = decide (head path = ['/']) := by
    match path with
    | [] => rfl
    | [c] =>
      by_cases hc : c = '/'
      · simp [isAbsolute, hc]
      · simp [isAbsolute, hc, apply_ite (· = ['/'])]
    | c :: d :: rest =>
      by_cases hc : c = '/'
      · simp [isAbsolute, hc]
      · simp [isAbsolute, hc, apply_ite (· = ['/'])]
  rw [hslash, hslash, h]

theorem isFront_singleton_iff {c : Char} : IsFront [c] ↔ c = '/' := by
  constructor
  · rintro (h | ⟨text, h⟩)
    · cases h
    · simpa using congrArg List.getLast? h
  · rintro rfl
    exact Or.inr ⟨[], rfl⟩

theorem IsFront.tail {c : Char} {front : Text} (h : IsFront (c :: front)) : IsFront front := by
  rcases h with h | ⟨text, h⟩
  · cases h
  · cases text with
    | nil => exact Or.inl (List.cons.inj h).2
    | cons d more => exact Or.inr ⟨more, (List.cons.inj h).2⟩

/-- What the head leaves of a front is a front. -/
theorem IsFront.drop_head {front : Text} (h : IsFront front) :
    IsFront (front.drop (head front).length) := by
  rcases head_cases front with hhead | ⟨rest, rfl, hhead⟩ | rfl | ⟨rest, rfl, hhead⟩
  · rw [hhead]
    exact h
  · rw [hhead]
    exact h.tail
  · cases isFront_singleton_iff.mp h
  · rw [hhead]
    exact h.tail

/-- A name adds nothing to the head of a front. -/
theorem head_append {front name : Text} (hfront : IsFront front) (hdot : name ≠ ['.'])
    (hslash : '/' ∉ name) : head (front ++ name) = head front := by
  match front with
  | [] =>
    -- a name on its own begins with no slash, and is no dot
    match name with
    | [] => rfl
    | [c] =>
      have hc : c ≠ '/' := by simpa [eq_comm] using hslash
      have hc' : c ≠ '.' := by simpa using hdot
      simp [hc, hc']
    | c :: d :: more =>
      have hc : c ≠ '/' := fun h => hslash (by simp [h])
      have hd : d ≠ '/' := fun h => hslash (by simp [h])
      simp [hc, hd]
  | [c] =>
    obtain rfl := isFront_singleton_iff.mp hfront
    cases name <;> simp
  | c :: d :: more =>
    -- the head is decided before the name begins
    simp

/-- Nor does the slash behind a base. -/
theorem head_frontOf (base : Text) : head (frontOf base) = head base := by
  unfold frontOf
  split
  · rfl
  · match base with
    | [] => simp_all
    | [c] => simp
    | c :: d :: more => simp

theorem head_join (base : Text) {name : Text} (h : IsName name) :
    head (join base name) = head base := by
  rw [join_of_slash_notMem base h.slash, head_append (isFront_frontOf base) h.ne_dot h.slash,
    head_frontOf]

theorem names_join (base : Text) {name : Text} (h : IsName name) :
    names (join base name) = names base ++ [name] := by
  rw [join_of_slash_notMem base h.slash, names_append (isFront_frontOf base) h, names_frontOf]

section Body

variable {path left : Text} (h : left <+: path.drop (head path).length)

include h

/-- The head has no name in it. -/
theorem names_head_append : names (head path ++ left) = names left := by
  rcases head_cases path with hhead | ⟨rest, rfl, hhead⟩ | rfl | ⟨rest, rfl, hhead⟩
  · rw [hhead]
    rfl
  · rw [hhead]
    exact names_append_slash [] left
  · obtain rfl := List.prefix_nil.mp h
    rfl
  · rw [hhead] at h ⊢
    -- behind the dot follows a slash, or nothing is left
    cases left with
    | nil => rfl
    | cons c more =>
      obtain rfl : c = '/' := (List.cons_prefix_cons.mp h).1
      exact (names_append_slash ['.'] more).trans (names_append_slash [] more).symm

/-- What is left of a path has the same head. -/
theorem head_head_append (hdot : left ≠ ['.']) : head (head path ++ left) = head path := by
  rcases head_cases path with hhead | ⟨rest, rfl, hhead⟩ | rfl | ⟨rest, rfl, hhead⟩
  · -- the path begins with what is left, and a single dot could become a head
    rw [hhead] at h ⊢
    obtain ⟨cut, rfl⟩ : left <+: path := h
    match left with
    | [] => rfl
    | [c] =>
      have hc : c ≠ '.' := by simpa using hdot
      cases cut with
      | nil => exact hhead
      | cons d more => simpa [hc] using hhead
    | c :: d :: more => simpa using hhead
  · rw [hhead]
    cases left <;> simp
  · obtain rfl := List.prefix_nil.mp h
    rfl
  · rw [hhead] at h ⊢
    cases left with
    | nil => rfl
    | cons c more =>
      obtain rfl : c = '/' := (List.cons_prefix_cons.mp h).1
      simp

end Body

/-! ## Taking paths apart -/

/-- Trimming stops at a name. -/
theorem trimBody_append {name : Text} (hne : name ≠ []) (hdot : name ≠ ['.']) (hslash : '/' ∉ name)
    (rest : Text) : trimBody (name.reverse ++ rest) = name.reverse ++ rest := by
  have hslash' : '/' ∉ name.reverse := fun h => hslash (List.mem_reverse.mp h)
  have hdot' : name.reverse ≠ ['.'] := fun h => hdot (List.reverse_eq_iff.mp h)
  have hne' : name.reverse ≠ [] := fun h => hne (List.reverse_eq_nil_iff.mp h)
  -- trimming looks at one or two characters, which depends on the length of the name
  generalize name.reverse = reversed at hslash' hdot' hne'
  match reversed with
  | [] => exact absurd rfl hne'
  | [c] =>
    have hc : c ≠ '/' := by simpa [eq_comm] using hslash'
    have hc' : c ≠ '.' := by simpa using hdot'
    simp [trimBody, hc, hc']
  | c :: d :: more =>
    have hc : c ≠ '/' := fun h => hslash' (by simp [h])
    have hd : d ≠ '/' := fun h => hslash' (by simp [h])
    simp [trimBody, hc, hd]

/-- What trimming leaves is an end of the reversed body. -/
theorem trimBody_suffix (body : Text) : trimBody body <:+ body := by
  fun_induction trimBody body with
  | case1 rest ih => exact ih.trans (List.suffix_cons ..)
  | case2 rest ih => exact ih.trans ((List.suffix_cons ..).trans (List.suffix_cons ..))
  | case3 => exact List.nil_suffix
  | case4 body => exact List.suffix_rfl

/-- What trimming takes away holds no name. -/
theorem names_trimBody (body : Text) : names (trimBody body).reverse = names body.reverse := by
  fun_induction trimBody body with
  | case1 rest ih => rw [ih, List.reverse_cons, names_slash_end]
  | case2 rest ih =>
    -- a dot between two slashes is no name
    have hdot : ('.' :: '/' :: rest).reverse = rest.reverse ++ '/' :: ['.'] := by simp
    rw [ih, hdot, names_append_slash]
    exact (List.append_nil _).symm
  | case3 => rfl
  | case4 body => rfl

/-- Trimming leaves no slash and no single dot in front. -/
theorem takeWhile_trimBody_ne_dot (body : Text) :
    (trimBody body).takeWhile (· ≠ '/') ≠ ['.'] := by
  fun_induction trimBody body with
  | case1 rest ih => exact ih
  | case2 rest ih => exact ih
  | case3 => simp
  | case4 body hslash hdotted hdot =>
    match body with
    | [] => simp
    | [c] =>
      intro h
      by_cases hc : c = '/'
      · simp [hc] at h
      · simp [hc] at h
        exact hdot (by rw [h])
    | c :: d :: more =>
      intro h
      by_cases hc : c = '/'
      · simp [hc] at h
      · by_cases hd : d = '/'
        · simp [hc, hd] at h
          exact hdotted more (by rw [h, hd])
        · simp [hc, hd] at h

theorem trimBody_ne_dot (body : Text) : trimBody body ≠ ['.'] := by
  intro h
  have hne := takeWhile_trimBody_ne_dot body
  rw [h] at hne
  simp at hne

/-- Nor is a slash left in front: either a name stands there, or nothing is left. -/
theorem trimBody_eq_nil {body : Text} (h : (trimBody body).takeWhile (· ≠ '/') = []) :
    trimBody body = [] := by
  fun_induction trimBody body with
  | case1 rest ih => exact ih h
  | case2 rest ih => exact ih h
  | case3 => rfl
  | case4 body hslash =>
    cases body with
    | nil => rfl
    | cons c more =>
      have hc : c ≠ '/' := fun hc => hslash more (by rw [hc])
      simp [hc] at h

/-- The names of a path are those of its trimmed body. -/
theorem names_trimmedBody (path : Text) :
    names (trimBody (bodyReversed path)).reverse = names path := by
  rw [names_trimBody, bodyReversed, List.reverse_reverse, ← names_head_append List.prefix_rfl,
    head_append_drop]

section Name

variable {front name : Text}

/-- Seen from its end, the body of a path begins with the last name. -/
theorem bodyReversed_append (hfront : IsFront front) (hdot : name ≠ ['.']) (hslash : '/' ∉ name) :
    bodyReversed (front ++ name) =
      name.reverse ++ (front.drop (head front).length).reverse := by
  have hlength : (head front).length ≤ front.length := by
    have hlength := congrArg List.length (head_append_drop front)
    rw [List.length_append] at hlength
    omega
  rw [bodyReversed, head_append hfront hdot hslash, List.drop_append_of_le_length hlength,
    List.reverse_append]

/-- A slash, or nothing, stands before the last name. -/
theorem IsFront.takeWhile_reverse (h : IsFront front) (hslash : '/' ∉ name) :
    (name.reverse ++ front.reverse).takeWhile (· ≠ '/') = name.reverse := by
  have hne : ∀ c ∈ name.reverse, decide (c ≠ '/') = true := fun c hc =>
    decide_eq_true (ne_of_mem_of_not_mem (List.mem_reverse.mp hc) hslash)
  rw [List.takeWhile_append_of_pos hne]
  rcases h with rfl | ⟨text, rfl⟩ <;> simp

/-- The last name of a path is what follows its front, unless that is two dots. -/
theorem fileName?_append (hfront : IsFront front) (hne : name ≠ []) (hdot : name ≠ ['.'])
    (hslash : '/' ∉ name) :
    fileName? (front ++ name) = if name = ['.', '.'] then none else some name := by
  rw [fileName?, bodyReversed_append hfront hdot hslash, trimBody_append hne hdot hslash,
    hfront.drop_head.takeWhile_reverse hslash, List.reverse_reverse]
  simp [hne]

end Name

theorem isFront_reverse_dropWhile (text : Text) :
    IsFront (text.dropWhile (· ≠ '/')).reverse := by
  cases hdrop : text.dropWhile (· ≠ '/') with
  | nil => exact Or.inl rfl
  | cons c rest =>
    have hslash := List.head?_dropWhile_not (· ≠ '/') text
    rw [hdrop] at hslash
    obtain rfl : c = '/' := by simpa using hslash
    exact Or.inr ⟨rest.reverse, List.reverse_cons⟩

/-- A body that is given reversed begins with its last name. -/
theorem names_reverse {body : Text} (hne : body.takeWhile (· ≠ '/') ≠ [])
    (hdot : body.takeWhile (· ≠ '/') ≠ ['.']) :
    names body.reverse =
      names (body.dropWhile (· ≠ '/')).reverse ++ [(body.takeWhile (· ≠ '/')).reverse] := by
  have hslash : '/' ∉ (body.takeWhile (· ≠ '/')).reverse := fun hmem => by
    simpa using List.mem_takeWhile_imp (List.mem_reverse.mp hmem)
  have hnames := names_append_last (isFront_reverse_dropWhile body)
    (mt List.reverse_eq_nil_iff.mp hne) (fun heq => hdot (List.reverse_eq_iff.mp heq)) hslash
  rwa [← List.reverse_append, List.takeWhile_append_dropWhile] at hnames

/-- The last name of a path is the last of its names, unless that is two dots. -/
theorem fileName?_eq (path : Text) :
    fileName? path = (names path).getLast?.filter fun name => decide (name ≠ ['.', '.']) := by
  rw [fileName?, ← names_trimmedBody path]
  have hdot := takeWhile_trimBody_ne_dot (bodyReversed path)
  have hnil (h : (trimBody (bodyReversed path)).takeWhile (· ≠ '/') = []) :
      trimBody (bodyReversed path) = [] := trimBody_eq_nil h
  generalize trimBody (bodyReversed path) = body at hdot hnil ⊢
  by_cases hempty : body.takeWhile (· ≠ '/') = []
  · rw [hnil hempty]
    rfl
  · have hne : (body.takeWhile (· ≠ '/')).reverse ≠ [] := mt List.reverse_eq_nil_iff.mp hempty
    rw [names_reverse hempty hdot, List.getLast?_concat, Option.filter_some]
    generalize (body.takeWhile (· ≠ '/')).reverse = last at hne ⊢
    simp [hne]

theorem fileName?_eq_some_iff {path name : Text} :
    fileName? path = some name ↔ name ≠ ['.', '.'] ∧ ∃ folder, names path = folder ++ [name] := by
  rw [fileName?_eq, Option.filter_eq_some_iff, List.getLast?_eq_some_iff, decide_eq_true_eq,
    and_comm]

/-- What is left of a path without its last name is a beginning of its body. -/
theorem reverse_trimBody_prefix (path : Text) :
    (trimBody ((trimBody (bodyReversed path)).dropWhile (· ≠ '/'))).reverse <+:
      path.drop (head path).length := by
  apply List.reverse_suffix.mp
  rw [List.reverse_reverse]
  exact (trimBody_suffix _).trans ((List.dropWhile_suffix _).trans (trimBody_suffix _))

/-- **The parent of a path has its names without the last one.** -/
theorem names_of_parent? {path up : Text} (h : parent? path = some up) :
    names up = (names path).dropLast := by
  rw [parent?] at h
  have hleft := reverse_trimBody_prefix path
  have hnames := names_trimmedBody path
  have hdot := takeWhile_trimBody_ne_dot (bodyReversed path)
  have hnil (h : (trimBody (bodyReversed path)).takeWhile (· ≠ '/') = []) :
      trimBody (bodyReversed path) = [] := trimBody_eq_nil h
  -- from here on only this matters of the trimmed body
  generalize trimBody (bodyReversed path) = body at h hleft hnames hdot hnil
  split at h
  · -- a path without a name has an empty parent, or none
    rename_i hempty
    rw [List.isEmpty_iff.mp hempty] at hnames
    split at h
    · cases h
      rw [← hnames]
      rfl
    · cases h
  · rename_i hbody
    cases h
    have hne : body.takeWhile (· ≠ '/') ≠ [] := by
      intro heq
      rw [hnil heq] at hbody
      exact hbody rfl
    rw [names_head_append hleft, names_trimBody, ← hnames, names_reverse hne hdot,
      List.dropLast_concat]

/-- **A path with a last name has a parent, which begins where the path begins and has all names but
the last one.** -/
theorem exists_parent {path name : Text} (h : fileName? path = some name) :
    IsName name ∧ ∃ base, parent? path = some base ∧ head base = head path ∧
      names path = names base ++ [name] ∧ base ⊆ path := by
  rw [fileName?] at h
  rw [parent?]
  have hleft := reverse_trimBody_prefix path
  have hnames := names_trimmedBody path
  have hdot := takeWhile_trimBody_ne_dot (bodyReversed path)
  -- from here on only this matters of the trimmed body
  generalize trimBody (bodyReversed path) = body at h hleft hnames hdot ⊢
  split at h
  · cases h
  rename_i hreal
  obtain rfl := Option.some.inj h
  rw [Bool.or_eq_true, not_or, List.isEmpty_iff, decide_eq_true_eq] at hreal
  have hname : IsName (body.takeWhile (· ≠ '/')).reverse := {
    ne_nil := hreal.1
    ne_dot := fun heq => hdot (List.reverse_eq_iff.mp heq)
    ne_dots := hreal.2
    slash := fun hmem => by simpa using List.mem_takeWhile_imp (List.mem_reverse.mp hmem) }
  have hne : body.isEmpty = false := by
    cases body with
    | nil => exact absurd rfl hname.ne_nil
    | cons c rest => rfl
  rw [hne, if_neg Bool.false_ne_true]
  refine ⟨hname, _, rfl, ?_, ?_, ?_⟩
  · apply head_head_append hleft
    intro heq
    exact trimBody_ne_dot _ (List.reverse_eq_iff.mp heq)
  · rw [names_head_append hleft, names_trimBody, ← hnames,
      names_reverse (mt List.reverse_eq_nil_iff.mpr hname.ne_nil) hdot]
  · intro c hc
    rw [← head_append_drop path]
    rcases List.mem_append.mp hc with hc | hc
    · exact List.mem_append_left _ hc
    · exact List.mem_append_right _ (hleft.subset hc)

/-- The directory that lies some steps above another one, going by the path alone. -/
def above? : Nat → Text → Option Text
  | 0, path => some path
  | steps + 1, path => (parent? path).bind (above? steps)

/-- A directory above another one has its names without the last ones. -/
theorem names_of_above? {steps : Nat} {path directory : Text}
    (h : above? steps path = some directory) :
    names directory = (names path).take ((names path).length - steps) := by
  induction steps generalizing path with
  | zero =>
    cases h
    simp
  | succ steps ih =>
    obtain ⟨up, hup, habove⟩ := Option.bind_eq_some_iff.mp h
    rw [ih habove, names_of_parent? hup, List.dropLast_eq_take, List.length_take, List.take_take]
    congr 1
    omega

/-- Two paths are read alike: they have the same head and the same names. -/
def Same (path other : Text) : Prop := head path = head other ∧ names path = names other

instance (path other : Text) : Decidable (Same path other) :=
  inferInstanceAs (Decidable (_ ∧ _))

end Tangle.Path
