import BenchChart.Path
import BenchChart.Proofs.Text.Split

/-!
# Joining a name to a path

A name that is joined to a path is the last of its parts, and the parent of the joined path leads
where the path led. `SameLead` says that two lists of parts are the same but for parts at their ends
that mean nothing: a path and the parent of what is joined to it differ in no other way. `IsChild`
says of a path that it is one of a name in a directory, however the directory is written.
-/

namespace BenchChart

namespace Path

/-- A part that can name an entry of a directory. -/
structure IsName (part : List UInt8) : Prop where
  noSlash : slash ∉ part
  notIdle : isIdle part = false
  notUp : part ≠ dotDot

/-- The parts that stand before a name that is joined to the path. -/
def lead (p : Path) : List (List UInt8) :=
  if p.bytes.isEmpty || p.bytes.getLast? == some slash then (split p.bytes).dropLast
  else split p.bytes

/-- The parts are the same but for parts at the ends that mean nothing. -/
def SameLead (a b : List (List UInt8)) : Prop :=
  ∃ core idle idle', a = core ++ idle ∧ b = core ++ idle' ∧
    (∀ part ∈ idle, isIdle part = true) ∧ ∀ part ∈ idle', isIdle part = true

/-- The path is that of a name in the directory. -/
structure IsChild (p directory : Path) (name : List UInt8) : Prop where
  isAbsolute_eq : p.isAbsolute = directory.isAbsolute
  split_eq : ∃ lead, split p.bytes = lead ++ [name] ∧ SameLead (split directory.bytes) lead

theorem IsName.ne_dot {part : List UInt8} (h : IsName part) : part ≠ dot := by
  rintro rfl
  exact absurd h.notIdle (by decide)

/-- Only names that start with a dot have a meaning of their own. -/
theorem isName_cons {b : UInt8} {rest : List UInt8} (hslash : slash ∉ b :: rest)
    (hdot : b ≠ 0x2E) : IsName (b :: rest) := by
  refine ⟨hslash, ?_, ?_⟩
  · simp [isIdle, dot, hdot]
  · simp [dotDot, hdot]

theorem SameLead.symm {a b : List (List UInt8)} (h : SameLead a b) : SameLead b a := by
  obtain ⟨core, idle, idle', ha, hb, hidle, hidle'⟩ := h
  exact ⟨core, idle', idle, hb, ha, hidle', hidle⟩

theorem SameLead.trans {a b c : List (List UInt8)} (hab : SameLead a b) (hbc : SameLead b c) :
    SameLead a c := by
  obtain ⟨core, idle, idle', ha, hb, hidle, hidle'⟩ := hab
  obtain ⟨core', next, next', hb', hc, hnext, hnext'⟩ := hbc
  rw [hb] at hb'
  -- One core is a part of the other, and what is left of the longer one means nothing.
  rcases List.append_eq_append_iff.1 hb' with ⟨more, hcore, hmore⟩ | ⟨more, hcore, hmore⟩
  · refine ⟨core, idle, more ++ next', ha, by rw [hc, hcore, List.append_assoc], hidle, ?_⟩
    intro part hpart
    rcases List.mem_append.1 hpart with hpart | hpart
    · exact hidle' part (by rw [hmore]; exact List.mem_append_left _ hpart)
    · exact hnext' part hpart
  · refine ⟨core', more ++ idle, next', by rw [ha, hcore, List.append_assoc], hc, ?_, hnext'⟩
    intro part hpart
    rcases List.mem_append.1 hpart with hpart | hpart
    · exact hnext part (by rw [hmore]; exact List.mem_append_left _ hpart)
    · exact hidle part hpart

theorem glue_cons_cons (part next : List UInt8) (rest : List (List UInt8)) :
    glue (part :: next :: rest) = part ++ slash :: glue (next :: rest) := by
  simp [glue, List.intercalate_cons_cons]

theorem split_glue {parts : List (List UInt8)} (hne : parts ≠ [])
    (h : ∀ part ∈ parts, slash ∉ part) : split (glue parts) = parts := by
  induction parts with
  | nil => exact absurd rfl hne
  | cons part rest ih =>
      have hpart := h part List.mem_cons_self
      cases rest with
      | nil =>
          have hglue : glue [part] = part := by simp [glue]
          rw [hglue]
          exact Text.split_of_not_mem hpart
      | cons next rest =>
          have hrest := ih (by simp) fun p hp => h p (List.mem_cons_of_mem _ hp)
          rw [glue_cons_cons, split, Text.split_append, Text.split_of_not_mem hpart]
          exact congrArg (part :: ·) hrest

/-- The bytes of parts, each with a slash. -/
def span : List (List UInt8) → Nat
  | [] => 0
  | part :: rest => part.length + 1 + span rest

theorem span_append (front back : List (List UInt8)) :
    span (front ++ back) = span front + span back := by
  induction front with
  | nil => rw [List.nil_append, span, Nat.zero_add]
  | cons part front ih => rw [List.cons_append, span, ih, span, ← Nat.add_assoc]

theorem length_glue {parts : List (List UInt8)} (h : parts ≠ []) :
    (glue parts).length + 1 = span parts := by
  induction parts with
  | nil => exact absurd rfl h
  | cons part rest ih =>
      cases rest with
      | nil => simp [glue, span]
      | cons next rest =>
          have hrest := ih (List.cons_ne_nil _ _)
          rw [glue_cons_cons, span, ← hrest, List.length_append, List.length_cons]
          omega

theorem glue_split (bytes : List UInt8) : glue (split bytes) = bytes := by
  induction bytes with
  | nil => rfl
  | cons b bytes ih =>
      obtain ⟨piece, pieces, hpieces⟩ := List.exists_cons_of_ne_nil (Text.split_ne_nil slash bytes)
      rw [split, hpieces] at ih
      by_cases hb : b = slash
      · rw [hb, split, Text.split_sep_cons, hpieces, glue_cons_cons, ih]
        rfl
      · rw [split, Text.split_cons_of_cons (by simpa using hb) hpieces]
        cases pieces with
        | nil => simpa [glue] using ih
        | cons next rest =>
            rw [glue_cons_cons] at ih ⊢
            rw [List.cons_append, ih]

theorem isAbsolute_iff {p : Path} :
    p.isAbsolute = true ↔ ∃ next rest, split p.bytes = [] :: next :: rest := by
  obtain ⟨bytes⟩ := p
  cases bytes with
  | nil => simp [isAbsolute, split]
  | cons b bs =>
      obtain ⟨first, others, hs⟩ := List.exists_cons_of_ne_nil (Text.split_ne_nil slash bs)
      by_cases hb : b = slash
      · simp [isAbsolute, split, Text.split_cons, Text.addToPieces, hb, hs]
      · simp [isAbsolute, split, Text.split_cons, Text.addToPieces, hb, hs]

/-- What ends a path decides how a name is joined to it. -/
theorem lead_cases (p : Path) :
    p.bytes = [] ∧ p.lead = [] ∨
      (∃ front, p.bytes = front ++ [slash] ∧ p.lead = split front) ∨
      (p.bytes.isEmpty || p.bytes.getLast? == some slash) = false ∧ p.lead = split p.bytes := by
  rw [lead]
  split
  · next hend =>
      by_cases hempty : p.bytes = []
      · exact .inl ⟨hempty, by rw [hempty]; rfl⟩
      · obtain ⟨front, hfront⟩ : ∃ front, p.bytes = front ++ [slash] :=
          List.getLast?_eq_some_iff.1 (by simpa [hempty] using hend)
        refine .inr (.inl ⟨front, hfront, ?_⟩)
        rw [hfront, split, Text.split_append]
        exact List.dropLast_concat
  · next hend => exact .inr (.inr ⟨Bool.eq_false_iff.2 hend, rfl⟩)

theorem head?_ne_slash {name : List UInt8} (h : slash ∉ name) : name.head? ≠ some slash :=
  fun he => h (List.mem_of_head? he)

theorem split_join (p : Path) {name : List UInt8} (h : slash ∉ name) :
    split (p.join name).bytes = p.lead ++ [name] := by
  rw [join, if_neg (head?_ne_slash h)]
  rcases lead_cases p with ⟨hbytes, hlead⟩ | ⟨front, hbytes, hlead⟩ | ⟨hend, hlead⟩
  · rw [hbytes, hlead]
    exact Text.split_of_not_mem h
  · rw [if_pos (by simp [hbytes]), hbytes, hlead, List.append_assoc, List.singleton_append, split,
      Text.split_append, Text.split_of_not_mem h]
    rfl
  · rw [hend, hlead, split, if_neg (by decide), Text.split_append, Text.split_of_not_mem h]
    rfl

theorem join_inj (p : Path) {a b : List UInt8} (ha : slash ∉ a) (hb : slash ∉ b) :
    p.join a = p.join b ↔ a = b := by
  constructor
  · intro h
    have hsplit := congrArg (fun q => split q.bytes) h
    simp only [split_join p ha, split_join p hb, List.append_cancel_left_eq] at hsplit
    exact List.singleton_inj.1 hsplit
  · rintro rfl
    rfl

theorem sameLead_split_lead (p : Path) : SameLead (split p.bytes) p.lead := by
  rcases lead_cases p with ⟨hbytes, hlead⟩ | ⟨front, hbytes, hlead⟩ | ⟨_, hlead⟩
  · rw [hbytes, hlead]
    exact ⟨[], [[]], [], rfl, rfl, by simp [isIdle], by simp⟩
  · rw [hbytes, hlead, split, Text.split_append]
    exact ⟨split front, [[]], [], rfl, (List.append_nil _).symm, by simp [isIdle], by simp⟩
  · rw [hlead]
    exact ⟨split p.bytes, [], [], (List.append_nil _).symm, (List.append_nil _).symm, by simp,
      by simp⟩

theorem isAbsolute_join (p : Path) {name : List UInt8} (h : slash ∉ name) :
    (p.join name).isAbsolute = p.isAbsolute := by
  have hhead := head?_ne_slash h
  rw [join, if_neg hhead]
  by_cases hempty : p.bytes = []
  · simp [isAbsolute, hempty, hhead]
  · obtain ⟨b, bs, hb⟩ := List.exists_cons_of_ne_nil hempty
    split <;> simp [isAbsolute, hb]

theorem dropIdle_cons_of_not_idle {part : List UInt8} (h : isIdle part = false)
    (before : List (List UInt8)) : dropIdle (part :: before) = part :: before := by
  have hne : part.isEmpty = false := by
    rw [isIdle, Bool.or_eq_false_iff] at h
    exact h.1
  cases before with
  | nil => rw [dropIdle, hne]; rfl
  | cons next rest => simp [dropIdle, h]

/-- What is dropped means nothing. -/
theorem exists_append_dropIdle (parts : List (List UInt8)) :
    ∃ idle, parts = idle ++ dropIdle parts ∧ ∀ part ∈ idle, isIdle part = true := by
  fun_induction dropIdle parts with
  | case1 => exact ⟨[], rfl, by simp⟩
  | case2 first h =>
      obtain rfl := List.isEmpty_iff.1 h
      exact ⟨[[]], rfl, by simp [isIdle]⟩
  | case3 first h => exact ⟨[], rfl, by simp⟩
  | case4 part before _ h ih =>
      obtain ⟨idle, hparts, hidle⟩ := ih
      refine ⟨part :: idle, by rw [List.cons_append, ← hparts], ?_⟩
      intro other hother
      rcases List.mem_cons.1 hother with rfl | hother
      · exact h
      · exact hidle other hother
  | case5 part before _ h => exact ⟨[], rfl, by simp⟩

theorem ne_nil_of_dropIdle {parts before : List (List UInt8)} {part : List UInt8}
    (h : dropIdle parts = part :: before) : part ≠ [] := by
  fun_induction dropIdle parts with
  | case1 => cases h
  | case2 first hfirst => cases h
  | case3 first hfirst =>
      cases h
      simpa using hfirst
  | case4 part before _ _ ih => exact ih h
  | case5 first rest _ hfirst =>
      cases h
      rintro rfl
      exact hfirst rfl

theorem last?_join (p : Path) {name : List UInt8} (h : IsName name) :
    (p.join name).last? = some (name, p.lead.reverse) := by
  rw [last?, split_join p h.noSlash, List.reverse_append, List.reverse_singleton,
    List.singleton_append, dropIdle_cons_of_not_idle h.notIdle]

theorem fileName?_join (p : Path) {name : List UInt8} (h : IsName name) :
    (p.join name).fileName? = some name := by
  rw [fileName?, last?_join p h]
  exact if_neg fun hname => hname.elim h.ne_dot h.notUp

theorem split_of_last? {p : Path} {part : List UInt8} {before : List (List UInt8)}
    (h : p.last? = some (part, before)) :
    ∃ idle, split p.bytes = before.reverse ++ part :: idle ∧
      ∀ other ∈ idle, isIdle other = true := by
  obtain ⟨idle, hparts, hidle⟩ := exists_append_dropIdle (split p.bytes).reverse
  rw [last?] at h
  split at h
  · cases h
  · next part' before' hdrop =>
      cases h
      refine ⟨idle.reverse, ?_, by simpa using hidle⟩
      rw [← List.reverse_reverse (split p.bytes), hparts, hdrop]
      simp

theorem isAbsolute_of_core {p q : Path} {core rest : List (List UInt8)}
    (hq : split q.bytes = core) (hp : split p.bytes = core ++ rest) (hcore : core ≠ [[]]) :
    q.isAbsolute = p.isAbsolute := by
  have hne : core ≠ [] := by
    rw [← hq]
    exact Text.split_ne_nil slash q.bytes
  rw [Bool.eq_iff_iff, isAbsolute_iff, isAbsolute_iff, hq, hp]
  match core with
  | [] => exact absurd rfl hne
  | [first] =>
      have hfirst : first ≠ [] := fun he => hcore (by rw [he])
      simp [hfirst]
  | first :: next :: others => simp

/-- The parts of a parent are those that were glued to it. -/
theorem split_glue_of_dropIdle {p : Path} {part last : List UInt8}
    {before earlier : List (List UInt8)} (h : p.last? = some (part, before))
    (hdrop : dropIdle before = last :: earlier) :
    split (glue (last :: earlier).reverse) = (last :: earlier).reverse := by
  obtain ⟨after, hsplit, _⟩ := split_of_last? h
  obtain ⟨idle, hbefore, _⟩ := exists_append_dropIdle before
  apply split_glue (by simp)
  intro other hother
  have hmem : other ∈ Text.split slash p.bytes := by
    rw [← split, hsplit, hbefore, hdrop, List.reverse_append]
    exact List.mem_append_left _ (List.mem_append_left _ hother)
  exact Text.not_mem_of_mem_split hmem

theorem reverse_dropIdle_ne {before earlier : List (List UInt8)} {last : List UInt8}
    (hdrop : dropIdle before = last :: earlier) : (last :: earlier).reverse ≠ [[]] := by
  intro he
  have hcons : last :: earlier = [[]] := by
    rw [← List.reverse_reverse (last :: earlier), he]
    rfl
  exact ne_nil_of_dropIdle hdrop (List.cons.inj hcons).1

theorem glue_dropIdle_ne_nil {p : Path} {part last : List UInt8}
    {before earlier : List (List UInt8)} (h : p.last? = some (part, before))
    (hdrop : dropIdle before = last :: earlier) : glue (last :: earlier).reverse ≠ [] := by
  intro he
  have hcore := split_glue_of_dropIdle h hdrop
  rw [he] at hcore
  exact reverse_dropIdle_ne hdrop hcore.symm

/-- The parent of a path leads where the parts before its last one lead. -/
theorem parent?_of_last? {p : Path} {part : List UInt8} {before : List (List UInt8)}
    (h : p.last? = some (part, before)) :
    ∃ parent, p.parent? = some parent ∧ parent.isAbsolute = p.isAbsolute ∧
      SameLead (split parent.bytes) before.reverse := by
  obtain ⟨after, hsplit, _⟩ := split_of_last? h
  obtain ⟨idle, hbefore, hidle⟩ := exists_append_dropIdle before
  have hidle' : ∀ other ∈ idle.reverse, isIdle other = true := by simpa using hidle
  have hlead : before.reverse = (dropIdle before).reverse ++ idle.reverse := by
    rw [← List.reverse_append, ← hbefore]
  rw [parent?, h]
  refine ⟨_, rfl, ?_⟩
  cases hdrop : dropIdle before with
  | nil =>
      rw [hdrop, List.reverse_nil, List.nil_append] at hlead
      cases habsolute : p.isAbsolute with
      | true => exact ⟨rfl, [], [[], []], _, rfl, hlead, by simp [isIdle], hidle'⟩
      | false => exact ⟨rfl, [], [[]], _, rfl, hlead, by simp [isIdle], hidle'⟩
  | cons last earlier =>
      rw [hdrop] at hlead
      have hcore := split_glue_of_dropIdle h hdrop
      have hkept : (glue (last :: earlier).reverse).isEmpty = false := by
        rw [List.isEmpty_eq_false_iff]
        exact glue_dropIdle_ne_nil h hdrop
      have hparts : split p.bytes =
          (last :: earlier).reverse ++ (idle.reverse ++ part :: after) := by
        rw [hsplit, hlead, List.append_assoc]
      rw [hkept, Bool.and_false]
      refine ⟨isAbsolute_of_core hcore hparts (reverse_dropIdle_ne hdrop), _, [], _, ?_, hlead,
        by simp, hidle'⟩
      rw [List.append_nil]
      exact hcore

theorem dropIdle_dropIdle (parts : List (List UInt8)) :
    dropIdle (dropIdle parts) = dropIdle parts := by
  fun_induction dropIdle parts with
  | case1 => rfl
  | case2 first h => rfl
  | case3 first h => rw [dropIdle, if_neg h]
  | case4 part before _ _ ih => exact ih
  | case5 part before _ h => exact dropIdle_cons_of_not_idle (by simpa using h) before

/-- A path that does not end with a slash keeps all its parts before a name that is joined to it. -/
theorem lead_of_split_eq {p : Path} {earlier : List (List UInt8)} {last : List UInt8}
    (h : split p.bytes = (last :: earlier).reverse) (hlast : last ≠ []) :
    p.lead = (last :: earlier).reverse := by
  rcases lead_cases p with ⟨hbytes, _⟩ | ⟨front, hbytes, _⟩ | ⟨_, hlead⟩
  · rw [hbytes, List.reverse_cons, split, Text.split_nil, ← List.nil_append [[]]] at h
    exact absurd (List.append_inj' h rfl).2 (by simpa using Ne.symm hlast)
  · rw [hbytes, split, Text.split_append, List.reverse_cons] at h
    exact absurd (List.append_inj' h rfl).2 (by simpa using Ne.symm hlast)
  · rw [hlead, h]

/-- A parent is the parent of all that is joined to it. -/
theorem parent?_join_of_parent? {p parent : Path} (h : p.parent? = some parent)
    {name : List UInt8} (hname : IsName name) : (parent.join name).parent? = some parent := by
  rw [parent?] at h
  split at h
  · cases h
  · next part before hlast =>
      obtain rfl := Option.some.inj h
      rw [parent?, last?_join _ hname, isAbsolute_join _ hname.noSlash]
      cases hdrop : dropIdle before with
      | nil =>
          cases p.isAbsolute with
          | true => rfl
          | false => rfl
      | cons last earlier =>
          have hkept : (glue (last :: earlier).reverse).isEmpty = false := by
            rw [List.isEmpty_eq_false_iff]
            exact glue_dropIdle_ne_nil hlast hdrop
          have hlead : lead ⟨glue (last :: earlier).reverse⟩ = (last :: earlier).reverse :=
            lead_of_split_eq (split_glue_of_dropIdle hlast hdrop) (ne_nil_of_dropIdle hdrop)
          have hdropped : dropIdle (last :: earlier) = last :: earlier := by
            rw [← hdrop, dropIdle_dropIdle]
          simp only [hkept, Bool.and_false, Bool.false_eq_true, if_false]
          rw [hlead, List.reverse_reverse, hdropped, hkept, Bool.and_false]
          rfl

theorem exists_last?_of_fileName? {p : Path} {part : List UInt8} (h : p.fileName? = some part) :
    ∃ before, p.last? = some (part, before) ∧ part ≠ dot ∧ part ≠ dotDot := by
  rw [fileName?] at h
  split at h
  · cases h
  · next last before hlast =>
      split at h
      · cases h
      · next hmeaning =>
          obtain rfl := Option.some.inj h
          rw [not_or] at hmeaning
          exact ⟨before, hlast, hmeaning⟩

theorem ne_nil_of_last? {p : Path} {part : List UInt8} {before : List (List UInt8)}
    (h : p.last? = some (part, before)) : part ≠ [] := by
  rw [last?] at h
  split at h
  · cases h
  · next hdrop =>
      cases h
      exact ne_nil_of_dropIdle hdrop

theorem isName_of_fileName? {p : Path} {part : List UInt8} (h : p.fileName? = some part) :
    IsName part := by
  obtain ⟨before, hlast, hdot, hup⟩ := exists_last?_of_fileName? h
  obtain ⟨idle, hsplit, _⟩ := split_of_last? hlast
  have hmem : part ∈ Text.split slash p.bytes := by
    rw [← split, hsplit]
    exact List.mem_append_right _ List.mem_cons_self
  exact ⟨Text.not_mem_of_mem_split hmem, by simp [isIdle, ne_nil_of_last? hlast, hdot], hup⟩

/-- A path has room for its parent, its last part and the slash between them. -/
theorem length_parent_cases {p parent : Path} {part : List UInt8} {before : List (List UInt8)}
    (hlast : p.last? = some (part, before)) (hparent : p.parent? = some parent) :
    parent.bytes = [] ∧ part.length ≤ p.bytes.length ∨
      parent.bytes = [slash] ∧ part.length + 1 ≤ p.bytes.length ∨
      parent.bytes.length + 1 + part.length ≤ p.bytes.length := by
  rw [parent?, hlast] at hparent
  obtain rfl := Option.some.inj hparent
  obtain ⟨after, hsplit, _⟩ := split_of_last? hlast
  obtain ⟨idle, hbefore, _⟩ := exists_append_dropIdle before
  have hlength : (glue (split p.bytes)).length + 1 = span (split p.bytes) :=
    length_glue (Text.split_ne_nil slash p.bytes)
  rw [glue_split, hsplit, span_append, span] at hlength
  cases hdrop : dropIdle before with
  | nil =>
      rw [List.reverse_nil]
      cases habsolute : p.isAbsolute with
      | false => exact .inl ⟨rfl, by omega⟩
      | true =>
          obtain ⟨next, rest, hroot⟩ := isAbsolute_iff.1 habsolute
          rw [hsplit] at hroot
          obtain ⟨first, others, hcons⟩ : ∃ first others, before.reverse = first :: others := by
            apply List.exists_cons_of_ne_nil
            intro hnil
            rw [hnil] at hroot
            exact ne_nil_of_last? hlast (List.cons.inj hroot).1
          rw [hcons, span] at hlength
          exact .inr (.inl ⟨rfl, by omega⟩)
  | cons last earlier =>
      have hkept : (glue (last :: earlier).reverse).isEmpty = false := by
        rw [List.isEmpty_eq_false_iff]
        exact glue_dropIdle_ne_nil hlast hdrop
      have hglue : (glue (last :: earlier).reverse).length + 1 = span (last :: earlier).reverse :=
        length_glue (by simp)
      rw [hbefore, hdrop, List.reverse_append, span_append] at hlength
      simp only [hkept, Bool.and_false, Bool.false_eq_true, if_false]
      exact .inr (.inr (by omega))

/-- The way up comes to an end, as a parent is shorter. -/
theorem length_lt_of_parent? {p parent : Path} (h : p.parent? = some parent) :
    parent.bytes.length < p.bytes.length := by
  cases hlast : p.last? with
  | none =>
      rw [parent?, hlast] at h
      cases h
  | some last =>
      have hpart := List.length_pos_iff.2 (ne_nil_of_last? hlast)
      rcases length_parent_cases hlast h with ⟨hbytes, hle⟩ | ⟨hbytes, hle⟩ | hle
      · rw [hbytes]
        exact Nat.lt_of_lt_of_le hpart hle
      · rw [hbytes]
        exact Nat.lt_of_lt_of_le (Nat.succ_lt_succ hpart) hle
      · omega

/-- Beside a file, a path grows by as much as the name. -/
theorem length_join_parent_le {p parent : Path} {part name : List UInt8}
    (hparent : p.parent? = some parent) (hpart : p.fileName? = some part)
    (hname : slash ∉ name) :
    (parent.join name).bytes.length + part.length ≤ p.bytes.length + name.length := by
  obtain ⟨before, hlast, -⟩ := exists_last?_of_fileName? hpart
  have hjoin : (parent.join name).bytes = if parent.bytes.isEmpty ||
      parent.bytes.getLast? == some slash then parent.bytes ++ name
      else parent.bytes ++ slash :: name := by
    rw [join, if_neg (head?_ne_slash hname)]
    split <;> rfl
  rcases length_parent_cases hlast hparent with ⟨hbytes, hle⟩ | ⟨hbytes, hle⟩ | hle
  · rw [hjoin, hbytes, if_pos (by decide), List.nil_append]
    omega
  · rw [hjoin, hbytes, if_pos (by decide), List.length_append, List.length_singleton]
    omega
  · have hlength : (parent.join name).bytes.length ≤ parent.bytes.length + (name.length + 1) := by
      rw [hjoin]
      split <;> rw [List.length_append]
      · omega
      · exact Nat.le_of_eq rfl
    omega

theorem mem_glue {b : UInt8} {parts : List (List UInt8)} (hb : b ≠ slash) :
    b ∈ glue parts ↔ ∃ part ∈ parts, b ∈ part := by
  induction parts with
  | nil => simp [glue]
  | cons part rest ih =>
      cases rest with
      | nil => simp [glue]
      | cons next rest =>
          rw [glue_cons_cons, List.mem_append, List.mem_cons, ih]
          simp [hb]

/-- A parent has no bytes but slashes that the path does not have. -/
theorem mem_of_parent? {p parent : Path} (h : p.parent? = some parent) {b : UInt8}
    (hb : b ≠ slash) (hmem : b ∈ parent.bytes) : b ∈ p.bytes := by
  rw [parent?] at h
  split at h
  · cases h
  · next part before hlast =>
      obtain rfl := Option.some.inj h
      obtain ⟨after, hsplit, _⟩ := split_of_last? hlast
      obtain ⟨idle, hbefore, _⟩ := exists_append_dropIdle before
      have hkept : b ∈ glue (dropIdle before).reverse := by
        simp only at hmem
        split at hmem
        · exact absurd (List.mem_singleton.1 hmem) hb
        · exact hmem
      obtain ⟨other, hother, hin⟩ := (mem_glue hb).1 hkept
      rw [← glue_split p.bytes, mem_glue hb, hsplit]
      refine ⟨other, List.mem_append_left _ ?_, hin⟩
      rw [List.mem_reverse, hbefore]
      exact List.mem_append_right _ (List.mem_reverse.1 hother)

theorem mem_of_fileName? {p : Path} {part : List UInt8} (h : p.fileName? = some part) {b : UInt8}
    (hb : b ≠ slash) (hmem : b ∈ part) : b ∈ p.bytes := by
  obtain ⟨before, hlast, -⟩ := exists_last?_of_fileName? h
  obtain ⟨after, hsplit, _⟩ := split_of_last? hlast
  rw [← glue_split p.bytes, mem_glue hb, hsplit]
  exact ⟨part, by simp, hmem⟩

theorem mem_join {p : Path} {name : List UInt8} {b : UInt8} (h : b ∈ (p.join name).bytes) :
    b = slash ∨ b ∈ p.bytes ∨ b ∈ name := by
  rw [join] at h
  split at h
  · exact .inr (.inr h)
  · split at h
    · exact .inr (List.mem_append.1 h)
    · rcases List.mem_append.1 h with h | h
      · exact .inr (.inl h)
      · exact (List.mem_cons.1 h).imp_right .inr

theorem isChild_join (p : Path) {name : List UInt8} (h : slash ∉ name) :
    IsChild (p.join name) p name :=
  ⟨isAbsolute_join p h, p.lead, split_join p h, sameLead_split_lead p⟩

/-- All that is joined to a path has one parent. -/
theorem exists_parent?_join (p : Path) :
    ∃ parent : Path, (∀ name, IsName name → (p.join name).parent? = some parent) ∧
      ∀ name, slash ∉ name → IsChild (parent.join name) p name := by
  have hname : IsName [0x61] := isName_cons (by decide) (by decide)
  obtain ⟨parent, hparent, habsolute, hlead⟩ := parent?_of_last? (last?_join p hname)
  rw [isAbsolute_join p hname.noSlash] at habsolute
  rw [List.reverse_reverse] at hlead
  refine ⟨parent, ?_, ?_⟩
  · intro name h
    rw [← hparent, parent?, parent?, last?_join p h, last?_join p hname,
      isAbsolute_join p h.noSlash, isAbsolute_join p hname.noSlash]
  · intro name h
    refine ⟨(isAbsolute_join parent h).trans habsolute, parent.lead, split_join parent h, ?_⟩
    exact ((sameLead_split_lead p).trans hlead.symm).trans (sameLead_split_lead parent)

end Path

end BenchChart
