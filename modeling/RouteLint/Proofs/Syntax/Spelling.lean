import RouteLint.Proofs.Syntax.Scans
import RouteLint.Syntax.Parse

/-!
# How types are spelled

The text of a generic type is its name and its arguments with something between them: signs, blanks
and comments.  This is so for every type that is read, whatever its parts are.

## Main definitions

* `Joint` — what may stand between two parts of a type.
* `Strung` — a text that is made of given parts.
* `TypeExpr.Spelled` — a type in which generic types are made of their names and arguments.

## Main results

* `rules_read` — **types that are read are spelled.**
-/

namespace RouteLint.Syntax

/-! ### Parts of a text -/

/-- What may stand between two parts of a type: signs, with blanks and comments around them. -/
inductive Joint : List Char → Prop
  | sign {gap gap' : List Char} {c : Char} (hgap : Trivia gap) (hc : c ∈ ['<', ',', '>'])
    (hgap' : Trivia gap') : Joint (gap ++ c :: gap')
  | append {sep sep' : List Char} (h : Joint sep) (h' : Joint sep') : Joint (sep ++ sep')

namespace Joint

variable {sep gap : List Char}

theorem append_trivia (h : Joint sep) (hgap : Trivia gap) : Joint (sep ++ gap) := by
  induction h with
  | sign hbefore hc hafter =>
    rw [List.append_assoc, List.cons_append]
    exact .sign hbefore hc (hafter.append hgap)
  | append h _ _ ih =>
    rw [List.append_assoc]
    exact .append h ih

theorem of_trivia (hgap : Trivia gap) {c : Char} (hc : c ∈ ['<', ',', '>']) :
    Joint (gap ++ [c]) :=
  .sign hgap hc .nil

theorem isWordChar_of_mem {c : Char} (hc : c ∈ ['<', ',', '>']) : isWordChar c = false := by
  have hall : ['<', ',', '>'].all (!isWordChar ·) = true := by decide
  simpa using List.all_eq_true.1 hall c hc

theorem head (h : Joint sep) : ∃ c, sep.head? = some c ∧ isWordChar c = false := by
  induction h with
  | @sign gap gap' c hgap hc _ =>
    cases gap with
    | nil => exact ⟨c, rfl, isWordChar_of_mem hc⟩
    | cons x gap => exact ⟨x, rfl, hgap.head rfl⟩
  | append _ _ ih =>
    obtain ⟨c, hc, hsign⟩ := ih
    exact ⟨c, by rw [List.head?_append, hc, Option.some_or], hsign⟩

theorem last (h : Joint sep) : ∃ c, sep.getLast? = some c ∧ isWordChar c = false := by
  induction h with
  | @sign gap gap' c _ hc hgap =>
    rw [List.getLast?_append, List.getLast?_cons, Option.some_or]
    refine ⟨_, rfl, ?_⟩
    cases hlast : gap'.getLast? with
    | none => exact isWordChar_of_mem hc
    | some x => exact hgap.last hlast
  | append _ _ _ ih =>
    obtain ⟨c, hc, hsign⟩ := ih
    exact ⟨c, by rw [List.getLast?_append, hc, Option.some_or], hsign⟩

end Joint

/-- A text that is made of given parts, each with something of a given kind after it. -/
inductive Strung (P : List Char → Prop) : List String → String → Prop
  | nil : Strung P [] ""
  | cons {part text : String} {sep : List Char} {parts : List String} (hsep : P sep)
    (h : Strung P parts text) : Strung P (part :: parts) (part ++ String.ofList sep ++ text)

theorem Strung.singleton {P : List Char → Prop} {sep : List Char} (hsep : P sep) (part : String) :
    Strung P [part] (part ++ String.ofList sep) := by
  have h : Strung P [part] (part ++ String.ofList sep ++ "") := .cons hsep .nil
  rwa [String.append_empty] at h

/-- A type in which the text of a generic type is made of its name and its arguments, with something
of a given kind after each of them. -/
inductive TypeExpr.Spelled (P : List Char → Prop) : TypeExpr → Prop
  | generic {p : Piece} {head : TypeHead} {ts : List TypeExpr}
    (hp : Strung P (head.text :: ts.map TypeExpr.text) p.text) (hts : ∀ t ∈ ts, t.Spelled P) :
    TypeExpr.Spelled P (.generic p head ts)
  | plain {t : TypeExpr} (h : ∀ p head ts, t ≠ .generic p head ts) : t.Spelled P

/-! ### Types where they are read -/

/-- A type that is read from one place to another: its text is what stands between them. -/
structure TypeExpr.Stands (t : TypeExpr) (a d : Cursor) : Prop where
  reaches : a.Reaches d
  text : t.text = a.textTo d
  spelled : t.Spelled Joint

theorem TypeExpr.Stands.plain {t : TypeExpr} {a d : Cursor} (h : a.Reaches d)
    (htext : t.text = a.textTo d) (hplain : ∀ p head ts, t ≠ .generic p head ts) : t.Stands a d :=
  ⟨h, htext, .plain hplain⟩

/-- A scan that reads types from the next token on. -/
def Reads (s : Scan TypeExpr) : Prop := ∀ c, Yields s c fun t d => t.Stands c.token d

theorem Reads.forward {s : Scan TypeExpr} (h : Reads s) : Forward s :=
  ⟨fun c => (h c).imp fun _ _ hd => c.reaches_token.trans hd.reaches⟩

theorem Reads.orElse {s t : Scan TypeExpr} (hs : Reads s) (ht : Reads t) : Reads (s <|> t) :=
  fun c => (hs c).orElse (ht c)

theorem reads_anyOf {ss : List (Scan TypeExpr)} (h : ∀ s ∈ ss, Reads s) : Reads (anyOf ss) :=
  fun c => yields_anyOf fun s hs => h s hs c

/-- A sign, with blanks and comments before it. -/
theorem yields_symbol (sign : String) (c : Cursor) : Yields (symbol sign) c fun _ d =>
    ∃ gap, c.Passes (gap ++ sign.toList) d ∧ (sign.toList ≠ [] → Trivia gap) := by
  obtain ⟨gap, hgap, htrivia⟩ := c.exists_trivia
  unfold symbol
  refine Yields.bind (P := fun _ d => d = c.token) (fun a d had => by cases had; rfl) ?_
  rintro _ _ rfl
  refine (yields_exactly sign _).imp fun _ d hd => ⟨gap, hgap.append hd, fun hsign => htrivia ?_⟩
  rw [hd.rest_eq]
  exact List.append_ne_nil_of_left_ne_nil hsign _

/-! ### Arguments -/

/-- A type that is read after a sign and perhaps more.  Where the text goes on after the type, what
stands before it may stand between two parts. -/
def TypeExpr.After (t : TypeExpr) (lead : List Char) (c d : Cursor) : Prop :=
  ∃ gap xs, c.Passes (gap ++ xs) d ∧ t.text = String.ofList xs ∧ t.Spelled Joint ∧
    (d.rest ≠ [] → Joint (lead ++ gap))

theorem TypeExpr.Stands.after {t : TypeExpr} {lead : List Char} {c d : Cursor}
    (h : t.Stands c.token d) (hlead : Joint lead) : t.After lead c d := by
  obtain ⟨gap, hgap, htrivia⟩ := c.exists_trivia
  obtain ⟨xs, hxs⟩ := h.reaches
  refine ⟨gap, xs, hgap.append hxs, h.text.trans hxs.textTo_eq, h.spelled, fun hd => ?_⟩
  refine hlead.append_trivia (htrivia ?_)
  rw [hxs.rest_eq]
  exact List.append_ne_nil_of_right_ne_nil _ hd

theorem TypeExpr.After.behind {t : TypeExpr} {lead : List Char} {b c d : Cursor}
    (h : t.After lead c d) (hlead : b.Passes lead c) : t.After [] b d := by
  obtain ⟨gap, xs, hxs, htext, hspelled, hjoint⟩ := h
  exact ⟨lead ++ gap, xs, List.append_assoc .. ▸ hlead.append hxs, htext, hspelled, hjoint⟩

/-- Types that come after a part and some text.  Where the text goes on after them, they are strung
together with the part. -/
def Strings (ts : List TypeExpr) (lead : List Char) (c d : Cursor) : Prop :=
  ∃ xs, c.Passes xs d ∧ (∀ t ∈ ts, t.Spelled Joint) ∧ (d.rest ≠ [] → ∀ part tail, Joint tail →
    Strung Joint (part :: ts.map TypeExpr.text) (part ++ String.ofList (lead ++ xs ++ tail)))

namespace Strings

variable {t : TypeExpr} {ts : List TypeExpr} {lead : List Char} {b c d : Cursor}

theorem nil (hlead : ∀ tail, Joint tail → Joint (lead ++ tail)) (c : Cursor) :
    Strings [] lead c c := by
  refine ⟨[], .here c, nofun, fun _ part tail htail => ?_⟩
  rw [List.append_nil]
  exact .singleton (hlead tail htail) part

theorem cons (ht : t.After lead b c) (h : Strings ts [] c d) : Strings (t :: ts) lead b d := by
  obtain ⟨gap, text, hpasses, htext, hspelled, hsep⟩ := ht
  obtain ⟨xs, hxs, hts, hstrung⟩ := h
  refine ⟨gap ++ text ++ xs, hpasses.append hxs, List.forall_mem_cons.2 ⟨hspelled, hts⟩,
    fun hd part tail htail => ?_⟩
  have hc : c.rest ≠ [] := by
    rw [hxs.rest_eq]
    exact List.append_ne_nil_of_right_ne_nil _ hd
  have htexts : part ++ String.ofList (lead ++ (gap ++ text ++ xs) ++ tail) =
      part ++ String.ofList (lead ++ gap) ++ (t.text ++ String.ofList ([] ++ xs ++ tail)) := by
    rw [htext]
    simp [String.append_assoc]
  rw [htexts]
  exact .cons (hsep hc) (hstrung hd t.text tail htail)

/-- More text before the end. -/
theorem append (h : Strings ts lead b c) {more : List Char} (hmore : c.Passes more d)
    (hjoint : Joint more) : Strings ts lead b d := by
  obtain ⟨xs, hxs, hts, hstrung⟩ := h
  refine ⟨xs ++ more, hxs.append hmore, hts, fun hd part tail htail => ?_⟩
  have hc : c.rest ≠ [] := by
    rw [hmore.rest_eq]
    exact List.append_ne_nil_of_right_ne_nil _ hd
  have hall := hstrung hc part (more ++ tail) (hjoint.append htail)
  rwa [← List.append_assoc, List.append_assoc lead] at hall

end Strings

section Arguments

variable {r : Rules} (hr : Reads r.type)

include hr

/-- Further arguments, each after a comma. -/
theorem yields_many_arguments (c : Cursor) : Yields (many (do
      symbol ","
      r.type)) c fun ts d => Strings ts [] c d := by
  have hnil (c : Cursor) : Strings [] [] c c := by
    refine .nil ?_ c
    exact fun _ htail => htail
  have hitem (c : Cursor) : Yields (do
      symbol ","
      r.type) c fun t d => t.After [] c d := by
    refine (yields_symbol "," c).bind fun _ d ⟨gap, hgap, htrivia⟩ => (hr d).imp fun t e ht => ?_
    exact (ht.after (.of_trivia (htrivia (by decide)) (by decide))).behind hgap
  have hfrom : ∀ fuel c, Yields (manyFrom (do
        symbol ","
        r.type) fuel) c fun ts d => Strings ts [] c d := by
    intro fuel
    induction fuel with
    | nil => exact fun c => yields_pure (hnil c)
    | cons _ fuel ih =>
      intro c
      refine .orElse ?_ (yields_pure (hnil c))
      exact (hitem c).bind fun t d ht => (ih d).bind fun ts e hts => yields_pure (.cons ht hts)
  exact yields_bind_get (hfrom _ c)

/-- Arguments with commas between them, and perhaps one after the last. -/
theorem yields_list_arguments (c : Cursor) : Yields (list "," r.type) c fun ts d =>
    ∀ lead, Joint lead → Strings ts lead c d := by
  unfold list
  refine (yields_optionally (hr c)).bind ?_
  rintro _ d (⟨rfl, rfl⟩ | ⟨t, rfl, ht⟩)
  · exact yields_pure fun lead hlead => .nil (fun _ htail => hlead.append htail) _
  · refine (yields_many_arguments hr d).bind fun ts e hts => ?_
    have hall (lead : List Char) (hlead : Joint lead) : Strings (t :: ts) lead c e :=
      .cons (ht.after hlead) hts
    -- the comma after the last argument
    refine (yields_discard (yields_optionally (yields_symbol "," e))).bind ?_
    rintro _ f ⟨_, ⟨rfl, rfl⟩ | ⟨_, rfl, gap, hgap, htrivia⟩⟩
    · exact yields_pure hall
    · exact yields_pure fun lead hlead =>
        (hall lead hlead).append hgap (.of_trivia (htrivia (by decide)) (by decide))

/-- Arguments are strung together with the part before them. -/
theorem yields_typeArguments (c : Cursor) : Yields (typeArguments r) c fun ts d =>
    ∃ xs, c.Passes xs d ∧ (∀ t ∈ ts, t.Spelled Joint) ∧
      ∀ part, Strung Joint (part :: ts.map TypeExpr.text) (part ++ String.ofList xs) := by
  unfold typeArguments
  refine (yields_symbol "<" c).bind fun _ d ⟨gap, hgap, htrivia⟩ => ?_
  refine (yields_list_arguments hr d).bind fun ts e hts => ?_
  refine (yields_symbol ">" e).bind fun _ f ⟨gap', hgap', htrivia'⟩ => yields_pure ?_
  have hopen : Joint (gap ++ ['<']) := .of_trivia (htrivia (by decide)) (by decide)
  have hclose : Joint (gap' ++ ['>']) := .of_trivia (htrivia' (by decide)) (by decide)
  obtain ⟨xs, hxs, hspelled, hstrung⟩ := hts _ hopen
  have he : e.rest ≠ [] := by
    rw [hgap'.rest_eq]
    simp
  exact ⟨_, (hgap.append hxs).append hgap', hspelled,
    fun part => hstrung he part _ hclose⟩

end Arguments

/-! ### Types -/

section Types

variable {r : Rules}

theorem reads_plainType {α : Type} (kind : TypeKind) (s : Scan α) [Forward s] :
    Reads (plainType kind s) := by
  intro c
  unfold plainType
  exact (yields_piece s c).bind fun x d ⟨hd, htext⟩ => yields_pure (.plain hd htext nofun)

theorem reads_namedType (hr : Reads r.type) : Reads (namedType r) := by
  intro c
  unfold namedType
  refine yields_bind_mark (yields_bind_forward fun first d hd => ?_)
  refine yields_bind_forward fun others e he => yields_bind_get ?_
  have hname := hd.trans he
  refine (yields_optionally (yields_typeArguments hr e)).bind ?_
  rintro _ f (⟨rfl, rfl⟩ | ⟨ts, rfl, xs, hxs, hspelled, hstrung⟩)
  · dsimp only
    have hplain {t : TypeExpr} (htext : t.text = c.token.textTo f)
        (h : ∀ p head ts, t ≠ .generic p head ts) :
        Yields (pure t) f fun t d => t.Stands c.token d := yields_pure (.plain hname htext h)
    split
    · exact hplain rfl nofun
    · split
      · exact hplain rfl nofun
      · split
        · exact hplain rfl nofun
        · exact hplain rfl nofun
  · refine yields_bind_get (yields_pure ⟨hname.trans ⟨_, hxs⟩, rfl, .generic ?_ hspelled⟩)
    obtain ⟨ys, hys⟩ := hname
    show Strung Joint (c.token.textTo e :: _) (c.token.textTo f)
    rw [hys.textTo_eq, (hys.append hxs).textTo_eq, String.ofList_append]
    exact hstrung _

theorem reads_keywordType : Reads keywordType := by
  unfold keywordType
  refine reads_anyOf ?_
  simp only [List.forall_mem_cons]
  refine ⟨reads_plainType _ _, reads_plainType _ _, reads_plainType _ _, fun c => ?_, nofun⟩
  refine (yields_piece _ c).bind fun x d ⟨hd, htext⟩ => ?_
  unfold require
  split
  · exact yields_pure (.plain hd htext nofun)
  · exact yields_failure

theorem reads_importType : Reads importType := by
  intro c
  unfold importType
  refine yields_bind_mark (yields_bind_forward fun _ d hd => yields_bind_forward fun _ e he => ?_)
  refine yields_bind_forward fun names f hf => yields_bind_get (yields_pure ?_)
  exact .plain ((hd.trans he).trans hf) rfl nofun

theorem reads_literalType : Reads literalType := by
  unfold literalType
  refine reads_anyOf ?_
  simp only [List.forall_mem_cons]
  refine ⟨fun c => ?_, fun c => ?_, nofun⟩
  · exact (yields_piece _ c).bind fun _ d ⟨hd, htext⟩ => yields_pure (.plain hd htext nofun)
  · exact (yields_piece _ c).bind fun _ d ⟨hd, htext⟩ => yields_pure (.plain hd htext nofun)

theorem reads_atomType (hr : Reads r.type) : Reads (atomType r) := by
  have := hr.forward
  intro c
  unfold atomType ahead
  refine yields_bind_get ?_
  split
  · exact (yields_piece _ c).bind fun _ d ⟨hd, htext⟩ => yields_pure (.plain hd htext nofun)
  · exact (yields_piece _ c).bind fun _ d ⟨hd, htext⟩ => yields_pure (.plain hd htext nofun)
  · exact reads_plainType _ _ c
  · exact reads_plainType _ _ c
  · refine reads_anyOf ?_ c
    simp only [List.forall_mem_cons]
    exact ⟨reads_literalType, reads_plainType _ _, reads_importType, reads_keywordType,
      reads_namedType hr, nofun⟩

theorem reads_bracketedType (hr : Reads r.type) : Reads (bracketedType r) := by
  have := hr.forward
  intro c
  unfold bracketedType
  refine yields_bind_mark (Yields.bind (reads_atomType hr c.token) fun t d ht => ?_)
  rw [Cursor.token_token] at ht
  refine yields_extend ht fun t d ht => ?_
  unfold bracketsAfter
  refine yields_bind_forward fun _ e he => yields_bind_forward fun _ f hf => ?_
  refine yields_bind_forward fun _ g hg => yields_bind_forward fun _ h hh => ?_
  refine yields_bind_forward fun _ i hi => yields_bind_get (yields_pure ?_)
  exact .plain (((((ht.reaches.trans he).trans hf).trans hg).trans hh).trans hi) rfl nofun

theorem reads_singleTypeRule [Forward r.union] [Forward r.single] (hr : Reads r.type) :
    Reads (singleTypeRule r) := by
  have := hr.forward
  unfold singleTypeRule
  refine reads_anyOf ?_
  simp only [List.forall_mem_cons]
  exact ⟨reads_plainType _ _, reads_plainType _ _, reads_plainType _ _, reads_plainType _ _,
    reads_plainType _ _, reads_bracketedType hr, nofun⟩

/-- Types joined by a sign. -/
theorem reads_joined {part : Scan TypeExpr} (hpart : Reads part) (sign : String)
    {join : Piece → List TypeExpr → TypeExpr}
    (hjoin : join = TypeExpr.union ∨ join = TypeExpr.intersection) :
    Reads (joined sign join part) := by
  have := hpart.forward
  have hstands {a b : Cursor} (h : a.Reaches b) (ts : List TypeExpr) :
      (join (a.pieceTo b) ts).Stands a b := by
    rcases hjoin with rfl | rfl
    · exact .plain h rfl nofun
    · exact .plain h rfl nofun
  intro c
  have hfirst := hpart c.token
  rw [Cursor.token_token] at hfirst
  unfold joined
  refine yields_bind_mark (Yields.bind (P := fun t d => t.Stands c.token d) ?_ fun t d ht => ?_)
  · refine .orElse ?_ hfirst
    refine yields_bind_forward fun _ d hd => yields_bind_forward fun _ e he => ?_
    refine yields_bind_forward fun _ f hf => yields_bind_get (yields_pure (hstands ?_ _))
    exact (hd.trans he).trans hf
  · refine yields_extend ht fun t d ht => ?_
    refine yields_bind_forward fun _ e he => yields_bind_forward fun _ f hf => ?_
    refine yields_bind_forward fun _ g hg => yields_bind_forward fun _ h hh => ?_
    refine yields_bind_get (yields_pure (hstands ?_ _))
    exact (((ht.reaches.trans he).trans hf).trans hg).trans hh

theorem reads_unionRule (hr : Reads r.single) : Reads (unionRule r) :=
  reads_joined (reads_joined hr "&" (.inr rfl)) "|" (.inl rfl)

theorem reads_typeRule (hunion : Reads r.union) (htype : Reads r.type) : Reads (typeRule r) := by
  have := hunion.forward
  have := htype.forward
  intro c
  unfold typeRule
  refine yields_bind_mark (Yields.bind (hunion c.token) fun t d ht => ?_)
  rw [Cursor.token_token] at ht
  refine .orElse ?_ (yields_pure ht)
  refine yields_bind_forward fun _ e he => yields_bind_forward fun _ f hf => ?_
  refine yields_bind_forward fun _ g hg => yields_bind_forward fun _ h hh => ?_
  refine yields_bind_forward fun _ i hi => yields_bind_forward fun _ j hj => ?_
  refine yields_bind_get (yields_pure (.plain ?_ rfl nofun))
  exact (((((ht.reaches.trans he).trans hf).trans hg).trans hh).trans hi).trans hj

end Types

theorem reads_failure : Reads failure := fun _ => yields_failure

/-- **Types that are read are spelled.** -/
theorem rules_read (markup : Bool) (n : Nat) :
    Reads (rules markup n).type ∧ Reads (rules markup n).union ∧ Reads (rules markup n).single := by
  induction n with
  | zero => exact ⟨reads_failure, reads_failure, reads_failure⟩
  | succ n ih =>
    obtain ⟨htype, hunion, hsingle⟩ := ih
    have := hunion.forward
    have := hsingle.forward
    exact ⟨reads_typeRule hunion htype, reads_unionRule hsingle, reads_singleTypeRule htype⟩

end RouteLint.Syntax
