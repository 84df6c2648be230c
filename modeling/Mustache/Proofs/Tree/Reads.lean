import Mustache.Proofs.Tree.Boundary

/-!
# The nodes that tokens stand for

A tree is described here by a grammar of its tokens instead of by a run of the builder: a token
that neither opens nor closes a section stands for one node, and the tokens from an opening to its
closing tag stand for a section. Statements about parts of a tree are proved by induction on this
grammar.

## Main definitions

* `Mustache.Reading.leaf?` — the node of a token that neither opens nor closes a section.
* `Mustache.Reading.IsLeaf` — the same as a relation.
* `Mustache.Reads` — tokens and the nodes that they stand for.
* `Mustache.Carries` — a correspondence of tokens that carries over to nodes.
* `Mustache.HasBlock` — nodes with a given section among them, at any depth.

## Main results

* `Mustache.Reads.carry` — the nodes of corresponding tokens correspond.
* `Mustache.Reads.steps` — what the builder makes of such tokens.
* `Mustache.exists_buildTree_iff` — the nodes of a tree are those that its tokens stand for.
* `Mustache.Reads.exists_of_hasBlock` — a section stands for a stretch of the tokens.
-/

namespace Mustache

/-! ## Tokens and nodes -/

/-- The node of a token that neither opens nor closes a section; `none` if the token has no such
node. -/
def Reading.leaf? (r : Reading) : Option Node :=
  match r.token.kind with
  | .text => some (.text r.token.place r.token.value)
  | .interpolation | .rawInterpolation =>
    (splitFilters r.filtered r.token.value).map fun parts =>
      .interpolation r.token.place parts.1 (r.token.kind == .interpolation) parts.2 r.token.delims
  | .inclusion => some (.inclusion r.token.place r.token.value r.token.indent)
  | .comment => some (.comment r.token.place r.token.value)
  | .delimiterChange =>
    match Text.words r.token.value.toList with
    | [first, second] =>
      some (.delimiterChange r.token.place ⟨String.ofList first, String.ofList second⟩)
    | _ => none
  | .pragma => some (.pragma r.token.place r.token.value)
  | .sectionStart | .invertedStart | .sectionEnd => none

/-- **A token and its node**, one case for each kind of node that is no section. -/
inductive Reading.IsLeaf (r : Reading) : Node → Prop
  | text (kind : r.token.kind = .text) : r.IsLeaf (.text r.token.place r.token.value)
  | interpolation {name : String} {filters : List String} (interpolates : r.Interpolates)
    (names : splitFilters r.filtered r.token.value = some (name, filters)) :
    r.IsLeaf (.interpolation r.token.place name (r.token.kind == .interpolation) filters
      r.token.delims)
  | inclusion (kind : r.token.kind = .inclusion) :
    r.IsLeaf (.inclusion r.token.place r.token.value r.token.indent)
  | comment (kind : r.token.kind = .comment) : r.IsLeaf (.comment r.token.place r.token.value)
  | delimiterChange {first second : List Char} (kind : r.token.kind = .delimiterChange)
    (words : Text.words r.token.value.toList = [first, second]) :
    r.IsLeaf (.delimiterChange r.token.place ⟨String.ofList first, String.ofList second⟩)
  | pragma (kind : r.token.kind = .pragma) : r.IsLeaf (.pragma r.token.place r.token.value)

/-- The node of a token as a relation, for case analysis. -/
theorem Reading.leaf?_eq_some_iff {r : Reading} {n : Node} : r.leaf? = some n ↔ r.IsLeaf n := by
  constructor
  · intro h
    unfold leaf? at h
    cases hk : r.token.kind with
    | text =>
      simp only [hk, Option.some.injEq] at h
      exact h ▸ .text hk
    | inclusion =>
      simp only [hk, Option.some.injEq] at h
      exact h ▸ .inclusion hk
    | comment =>
      simp only [hk, Option.some.injEq] at h
      exact h ▸ .comment hk
    | pragma =>
      simp only [hk, Option.some.injEq] at h
      exact h ▸ .pragma hk
    | interpolation =>
      simp only [hk, Option.map_eq_some_iff] at h
      obtain ⟨parts, hparts, rfl⟩ := h
      exact hk ▸ .interpolation (.inl hk) hparts
    | rawInterpolation =>
      simp only [hk, Option.map_eq_some_iff] at h
      obtain ⟨parts, hparts, rfl⟩ := h
      exact hk ▸ .interpolation (.inr hk) hparts
    | delimiterChange =>
      simp only [hk] at h
      split at h
      · next hwords =>
        rw [Option.some.injEq] at h
        exact h ▸ .delimiterChange hk hwords
      · simp at h
    | sectionStart | invertedStart | sectionEnd => simp [hk] at h
  · intro h
    unfold leaf?
    cases h with
    | text hk | inclusion hk | comment hk | pragma hk => rw [hk]
    | interpolation hk names => rcases hk with hk | hk <;> simp [hk, names]
    | delimiterChange hk words => rw [hk, words]

/-- What the tags of a section say, given its name and its filters. -/
def sectionOf (opener closer : Token) (name : String) (filters : List String) : Section :=
  { place := opener.place, name, inverted := opener.kind == .invertedStart, filters,
    start := opener.stop, stop := closer.start, delims := opener.delims }

/-- Whether filters are available after some tokens. -/
def filteredAfter (filtered : Bool) (tokens : List Token) : Bool :=
  filtered || tokens.any fun t => decide t.IsFiltersPragma

/-- **Tokens and the nodes that they stand for**, where `filtered` says whether filters are
available at the first token. A closing tag is read as its opening tag. -/
inductive Reads : Bool → List Token → List Node → Prop
  /-- No token is left. -/
  | nil {filtered : Bool} : Reads filtered [] []
  /-- A token that neither opens nor closes a section. -/
  | leaf {filtered : Bool} {t : Token} {n : Node} {ts : List Token} {ns : List Node}
    (node : (Reading.mk t filtered).leaf? = some n)
    (after : Reads (filteredAfter filtered [t]) ts ns) : Reads filtered (t :: ts) (n :: ns)
  /-- A section. -/
  | block {filtered : Bool} {opener closer : Token} {name : String} {filters others : List String}
    {inner rest : List Token} {body ns : List Node}
    (opens : (Reading.mk opener filtered).Opens) (closes : (Reading.mk closer filtered).Closes)
    (names : splitFilters filtered opener.value = some (name, filters))
    (same : splitFilters filtered closer.value = some (name, others))
    (within : Reads filtered inner body) (after : Reads (filteredAfter filtered inner) rest ns) :
    Reads filtered (opener :: (inner ++ closer :: rest))
      (.block (sectionOf opener closer name filters) body :: ns)

/-! ## Filters -/

theorem filteredAfter_append (filtered : Bool) (ts us : List Token) :
    filteredAfter filtered (ts ++ us) = filteredAfter (filteredAfter filtered ts) us := by
  simp only [filteredAfter, List.any_append, Bool.or_assoc]

/-- A tag that opens or closes a section is no pragma. -/
theorem filteredAfter_cons {filtered : Bool} {t : Token} (h : t.kind ≠ .pragma) (ts : List Token) :
    filteredAfter filtered (t :: ts) = filteredAfter filtered ts := by
  have hno : ¬ t.IsFiltersPragma := fun hp => h hp.1
  simp only [filteredAfter, List.any_cons, decide_eq_false hno, Bool.false_or]

/-- The readings of two token lists, one behind the other. -/
theorem readingsFrom_append (filtered : Bool) (ts us : List Token) :
    readingsFrom filtered (ts ++ us) =
      readingsFrom filtered ts ++ readingsFrom (filteredAfter filtered ts) us := by
  induction ts generalizing filtered with
  | nil => simp [readingsFrom, filteredAfter]
  | cons t ts ih =>
    rw [List.cons_append, readingsFrom, readingsFrom, ih, List.cons_append]
    simp only [filteredAfter, List.any_cons, Bool.or_assoc]

theorem length_readingsFrom (filtered : Bool) (ts : List Token) :
    (readingsFrom filtered ts).length = ts.length := by
  induction ts generalizing filtered with
  | nil => rfl
  | cons t ts ih => rw [readingsFrom, List.length_cons, ih, List.length_cons]

/-- Where the readings of a token list fall into two parts, so does the token list. -/
theorem exists_of_readingsFrom_eq_append {filtered : Bool} {ts : List Token}
    {rs rs' : List Reading} (h : readingsFrom filtered ts = rs ++ rs') :
    ∃ us us', ts = us ++ us' ∧ rs = readingsFrom filtered us ∧
      rs' = readingsFrom (filteredAfter filtered us) us' := by
  have hlen : rs.length ≤ ts.length := by
    rw [← length_readingsFrom filtered ts, h, List.length_append]
    exact Nat.le_add_right _ _
  have hsplit := List.take_append_drop rs.length ts
  rw [← hsplit, readingsFrom_append] at h
  have hparts := List.append_inj h (by rw [length_readingsFrom, List.length_take_of_le hlen])
  exact ⟨_, _, hsplit.symm, hparts.1.symm, hparts.2.symm⟩

/-! ## Parts of lists -/

/-- Related lists fall into parts together. -/
theorem forall₂_append_left {α β : Type} {R : α → β → Prop} {as bs : List α} {cs : List β}
    (h : List.Forall₂ R (as ++ bs) cs) :
    ∃ cs₁ cs₂, cs = cs₁ ++ cs₂ ∧ List.Forall₂ R as cs₁ ∧ List.Forall₂ R bs cs₂ := by
  refine ⟨cs.take as.length, cs.drop as.length, (List.take_append_drop _ _).symm, ?_, ?_⟩
  · simpa using List.forall₂_take as.length h
  · simpa using List.forall₂_drop as.length h

/-- Where an item stands that is not in the first list. -/
theorem exists_of_append_eq_append_cons {α : Type} {xs ys front back : List α} {a : α}
    (ha : a ∉ xs) (h : xs ++ ys = front ++ a :: back) :
    ∃ mid, front = xs ++ mid ∧ ys = mid ++ a :: back := by
  rcases List.append_eq_append_iff.1 h with ⟨mid, rfl, hys⟩ | ⟨mid, rfl, hback⟩
  · exact ⟨mid, rfl, hys⟩
  · cases mid with
    | nil => exact ⟨[], by simp, hback.symm⟩
    | cons b mid =>
      obtain ⟨rfl, -⟩ := List.cons.inj hback
      simp at ha

/-- Where a stretch of a list stands that does not have a given item: in front of this item or
behind it. -/
theorem stretch_cases {α : Type} {init stretch rest inner after : List α} {a : α}
    (ha : a ∉ stretch) (h : init ++ (stretch ++ rest) = inner ++ a :: after) :
    (∃ mid, inner = init ++ (stretch ++ mid) ∧ rest = mid ++ a :: after) ∨
      ∃ mid, init = inner ++ a :: mid ∧ after = mid ++ (stretch ++ rest) := by
  rcases List.append_eq_append_iff.1 h with ⟨front, rfl, hfront⟩ | ⟨mid, rfl, hmid⟩
  · obtain ⟨mid, rfl, hmid⟩ := exists_of_append_eq_append_cons ha hfront
    exact .inl ⟨mid, rfl, hmid⟩
  · cases mid with
    | nil =>
      obtain ⟨mid, hnil, hmid'⟩ : ∃ mid, [] = stretch ++ mid ∧ rest = mid ++ a :: after :=
        exists_of_append_eq_append_cons ha hmid.symm
      exact .inl ⟨mid, by rw [← hnil]; simp, hmid'⟩
    | cons b mid =>
      rw [List.cons_append, List.cons.injEq] at hmid
      exact .inr ⟨mid, by rw [hmid.1], hmid.2⟩

/-! ## Corresponding tokens -/

/-- Tokens of one kind are pragmas for filters alike if they say the same as pragmas. -/
theorem Token.isFiltersPragma_congr {t t' : Token} (hkind : t'.kind = t.kind)
    (hvalue : t.kind = .pragma → t'.value = t.value) :
    t'.IsFiltersPragma ↔ t.IsFiltersPragma := by
  unfold IsFiltersPragma
  rw [hkind]
  exact and_congr_right fun hk => by rw [hvalue hk]

/-- Filters are available after tokens that are pragmas for them alike. -/
theorem filteredAfter_of_forall₂ {T : Token → Token → Prop}
    (hpragma : ∀ t t', T t t' → (t'.IsFiltersPragma ↔ t.IsFiltersPragma)) {ts ts' : List Token}
    (h : List.Forall₂ T ts ts') (filtered : Bool) :
    filteredAfter filtered ts' = filteredAfter filtered ts := by
  unfold filteredAfter
  induction h with
  | nil => rfl
  | cons hfirst _ ih =>
    rw [List.any_cons, List.any_cons, decide_eq_decide.2 (hpragma _ _ hfirst),
      Bool.or_left_comm, ih, Bool.or_left_comm]

/-- **A correspondence of tokens that carries over to nodes.** Tokens that correspond are of one
kind, and say the same but for texts, comments and delimiter changes; and the nodes that they stand
for correspond, one by one and between the tags of sections. -/
structure Carries (T : Token → Token → Prop) (N : Node → Node → Prop)
    (All : List Node → List Node → Prop) : Prop where
  kind {t t' : Token} (h : T t t') : t'.kind = t.kind
  value {t t' : Token} (h : T t t') (htext : t.kind ≠ .text) (hcomment : t.kind ≠ .comment)
    (hchange : t.kind ≠ .delimiterChange) : t'.value = t.value
  leaf {filtered : Bool} {t t' : Token} {n : Node} (h : T t t')
    (hn : (Reading.mk t filtered).leaf? = some n) :
    ∃ n', (Reading.mk t' filtered).leaf? = some n' ∧ N n n'
  nil : All [] []
  cons {n n' : Node} {ns ns' : List Node} (first : N n n') (others : All ns ns') :
    All (n :: ns) (n' :: ns')
  block {opener opener' closer closer' : Token} (name : String) (filters : List String)
    {body body' : List Node} (hopener : T opener opener') (hcloser : T closer closer')
    (hbodies : All body body') :
    N (.block (sectionOf opener closer name filters) body)
      (.block (sectionOf opener' closer' name filters) body')

theorem Carries.isFiltersPragma_iff {T : Token → Token → Prop} {N : Node → Node → Prop}
    {All : List Node → List Node → Prop} (hcarries : Carries T N All) (t t' : Token) (h : T t t') :
    t'.IsFiltersPragma ↔ t.IsFiltersPragma :=
  Token.isFiltersPragma_congr (hcarries.kind h) fun hk =>
    hcarries.value h (by simp [hk]) (by simp [hk]) (by simp [hk])

/-- **The nodes of corresponding tokens correspond.**

**Proof sketch.** Induction on the grammar of the nodes. The tags of a section correspond to tags
that open and close a section of the same name, as they say the same. -/
theorem Reads.carry {T : Token → Token → Prop} {N : Node → Node → Prop}
    {All : List Node → List Node → Prop} {filtered : Bool} {ts ts' : List Token} {ns : List Node}
    (h : Reads filtered ts ns) (hcarries : Carries T N All) (htokens : List.Forall₂ T ts ts') :
    ∃ ns', Reads filtered ts' ns' ∧ All ns ns' := by
  induction h generalizing ts' with
  | nil =>
    obtain rfl := List.forall₂_nil_left_iff.1 htokens
    exact ⟨[], .nil, hcarries.nil⟩
  | @leaf filtered t n ts ns node _ ih =>
    obtain ⟨t', rest, hfirst, hrest, rfl⟩ := List.forall₂_cons_left_iff.1 htokens
    obtain ⟨n', hn', hnode⟩ := hcarries.leaf hfirst node
    obtain ⟨ns', hns', hothers⟩ := ih hrest
    have hone : filteredAfter filtered [t'] = filteredAfter filtered [t] :=
      filteredAfter_of_forall₂ hcarries.isFiltersPragma_iff (.cons hfirst .nil) filtered
    exact ⟨n' :: ns', .leaf hn' (hone ▸ hns'), hcarries.cons hnode hothers⟩
  | @block filtered opener closer name filters others inner rest body ns opens closes names same
      _ _ ihin ihout =>
    obtain ⟨opener', tail, hopener, htail, rfl⟩ := List.forall₂_cons_left_iff.1 htokens
    obtain ⟨inner', tail', rfl, hinner, htail'⟩ := forall₂_append_left htail
    obtain ⟨closer', rest', hcloser, hrest, rfl⟩ := List.forall₂_cons_left_iff.1 htail'
    obtain ⟨body', hbody', hbodies⟩ := ihin hinner
    obtain ⟨ns', hns', hothers⟩ := ihout hrest
    have hopens : (Reading.mk opener' filtered).Opens := opens.of_kind (hcarries.kind hopener)
    have hcloses : (Reading.mk closer' filtered).Closes := (hcarries.kind hcloser).trans closes
    have hkind : closer.kind = .sectionEnd := closes
    have hvalue : opener'.value = opener.value := by
      have hopener' : opener.kind = .sectionStart ∨ opener.kind = .invertedStart := opens
      rcases hopener' with hk | hk <;>
        exact hcarries.value hopener (by simp [hk]) (by simp [hk]) (by simp [hk])
    have hvalue' : closer'.value = closer.value :=
      hcarries.value hcloser (by simp [hkind]) (by simp [hkind]) (by simp [hkind])
    rw [← filteredAfter_of_forall₂ hcarries.isFiltersPragma_iff hinner] at hns'
    exact ⟨_, .block hopens hcloses (hvalue ▸ names) (hvalue' ▸ same) hbody' hns',
      hcarries.cons (hcarries.block name filters hopener hcloser hbodies) hothers⟩

/-! ## The builder -/

namespace Builder

/-- The names of the pragmas among some tokens. -/
def pragmasOf (tokens : List Token) : List String :=
  (tokens.filter fun t => t.kind == .pragma).map Token.value

theorem pragmasOf_append (ts us : List Token) :
    pragmasOf (ts ++ us) = pragmasOf ts ++ pragmasOf us := by
  simp only [pragmasOf, List.filter_append, List.map_append]

theorem pragmasOf_cons {t : Token} (h : t.kind ≠ .pragma) (ts : List Token) :
    pragmasOf (t :: ts) = pragmasOf ts := by
  rw [pragmasOf, List.filter_cons_of_neg (by simpa using h), pragmasOf]

/-- The builder after some more nodes of the innermost section, and after some more pragmas. -/
def extend (b : Builder) (ns : List Node) (pragmas : List String) : Builder :=
  { b with body := ns.reverse ++ b.body, pragmas := pragmas.reverse ++ b.pragmas }

/-- Whether filters are available once the pragmas of some tokens have been read. -/
theorem filtersActive_extend (b : Builder) (ns : List Node) (tokens : List Token) :
    (b.extend ns (pragmasOf tokens)).filtersActive = filteredAfter b.filtersActive tokens := by
  have hmem : filtersPragma ∈ pragmasOf tokens ↔ ∃ t ∈ tokens, t.IsFiltersPragma := by
    simp only [pragmasOf, List.mem_map, List.mem_filter, beq_iff_eq, Token.IsFiltersPragma,
      and_assoc]
  rw [Bool.eq_iff_iff]
  simp only [filtersActive, extend, List.contains_iff_mem, List.mem_append, List.mem_reverse,
    hmem, filteredAfter, Bool.or_eq_true, List.any_eq_true, decide_eq_true_eq]
  exact or_comm

/-- A token that neither opens nor closes a section is read as its node. -/
theorem step_of_leaf? {b : Builder} {t : Token} {n : Node}
    (h : (Reading.mk t b.filtersActive).leaf? = some n) :
    b.step t = .ok (b.extend [n] (pragmasOf [t])) := by
  unfold step
  cases Reading.leaf?_eq_some_iff.1 h with
  | text hk | inclusion hk | comment hk =>
    dsimp only at hk
    rw [hk, pragmasOf_cons (by simp [hk])]
    rfl
  | pragma hk =>
    dsimp only at hk
    rw [hk, show pragmasOf [t] = [t.value] by simp [pragmasOf, hk]]
    rfl
  | interpolation hk names =>
    rcases hk with hk | hk <;> dsimp only at hk names
    all_goals
      simp only [interpolate, split, names, hk, pragmasOf_cons (t := t) (by simp [hk])]
      rfl
  | delimiterChange hk words =>
    dsimp only at hk words
    simp only [hk, changeDelimiters, words, pragmasOf_cons (t := t) (by simp [hk])]
    rfl

end Builder

/-- **What the builder makes of tokens that stand for nodes**: it reads them, and the nodes follow
those of the innermost open section.

**Proof sketch.** Induction on the grammar. A section is opened, its nodes are read into the empty
section, and the closing tag puts them behind the nodes that were set aside. -/
theorem Reads.steps {filtered : Bool} {tokens : List Token} {ns : List Node}
    (h : Reads filtered tokens ns) {b : Builder} (hb : b.filtersActive = filtered) :
    b.steps tokens = .ok (b.extend ns (Builder.pragmasOf tokens)) := by
  induction h generalizing b with
  | nil => rfl
  | @leaf filtered t n ts ns node _ ih =>
    subst hb
    rw [Builder.steps, Builder.step_of_leaf? node]
    dsimp only
    rw [ih (Builder.filtersActive_extend b [n] [t]), ← List.singleton_append (l := ts),
      Builder.pragmasOf_append]
    simp [Builder.extend]
  | @block filtered opener closer name filters others inner rest body ns opens closes names same
      _ _ ihin ihout =>
    subst hb
    -- The opening tag sets the nodes aside.
    have hopen : b.step opener = .ok { b with
        body := [], sections := ⟨opener, name, filters, b.filtersActive, b.body⟩ :: b.sections } := by
      have hstep : b.step opener = b.openSection opener := by
        unfold Builder.step
        rcases opens with hk | hk <;> rw [show opener.kind = _ from hk]
      rw [hstep]
      simp only [Builder.openSection, Builder.split, names]
    rw [Builder.steps, hopen]
    refine Builder.steps_append_eq_ok_iff.2 ⟨_, ihin rfl, ?_⟩
    rw [Builder.steps]
    -- The closing tag puts the section behind them.
    have hclose : Builder.step (Builder.extend { b with
          body := [], sections := ⟨opener, name, filters, b.filtersActive, b.body⟩ :: b.sections }
          body (Builder.pragmasOf inner)) closer =
        .ok (b.extend [.block (sectionOf opener closer name filters) body]
          (Builder.pragmasOf inner)) := by
      unfold Builder.step
      rw [show closer.kind = .sectionEnd from closes]
      simp only [Builder.closeSection, Builder.extend, Builder.split, same, if_true,
        List.append_nil, List.reverse_reverse]
      rfl
    rw [hclose]
    dsimp only
    rw [ihout (Builder.filtersActive_extend b _ inner), Builder.pragmasOf_cons opens.ne_pragma,
      Builder.pragmasOf_append, Builder.pragmasOf_cons closes.ne_pragma]
    simp [Builder.extend]

/-! ## Nesting -/

/-- A token that neither opens nor closes a section, is not badly filtered and has words for
delimiters stands for a node. -/
theorem Reading.exists_leaf {r : Reading} (opens : ¬ r.Opens) (closes : ¬ r.Closes)
    (good : r.Interpolates → ¬ r.IsBad) (hwords : r.token.HasWords) :
    ∃ n, r.leaf? = some n := by
  unfold leaf?
  cases hk : r.token.kind with
  | text | inclusion | comment | pragma => exact ⟨_, rfl⟩
  | interpolation =>
    obtain ⟨filters, hsplit⟩ :=
      (splitFilters_cases r.filtered r.token.value).resolve_left (fun h => good (.inl hk) h.1) |>.2
    exact ⟨_, by rw [hsplit]; rfl⟩
  | rawInterpolation =>
    obtain ⟨filters, hsplit⟩ :=
      (splitFilters_cases r.filtered r.token.value).resolve_left (fun h => good (.inr hk) h.1) |>.2
    exact ⟨_, by rw [hsplit]; rfl⟩
  | delimiterChange =>
    obtain ⟨d, hd⟩ := Option.isSome_iff_exists.1 (hwords hk)
    obtain ⟨first, second, hsplit, -, -, -⟩ := Delimiters.ofWords?_eq_some_iff.1 hd
    exact ⟨_, by rw [hsplit]⟩
  | sectionStart => exact absurd (.inl hk) opens
  | invertedStart => exact absurd (.inr hk) opens
  | sectionEnd => exact absurd hk closes

/-- Properly nested tags stand for nodes. -/
theorem Nested.exists_reads {rs : List Reading} (h : Nested rs) {filtered : Bool}
    {tokens : List Token} (hrs : rs = readingsFrom filtered tokens)
    (hwords : ∀ t ∈ tokens, t.HasWords) : ∃ ns, Reads filtered tokens ns := by
  induction h generalizing filtered tokens with
  | nil =>
    cases tokens with
    | nil => exact ⟨[], .nil⟩
    | cons t ts => simp [readingsFrom] at hrs
  | @leaf r rest opens closes good _ ih =>
    cases tokens with
    | nil => simp [readingsFrom] at hrs
    | cons t ts =>
      rw [readingsFrom, List.cons.injEq] at hrs
      obtain ⟨rfl, hrest⟩ := hrs
      rw [List.forall_mem_cons] at hwords
      obtain ⟨n, hn⟩ := Reading.exists_leaf opens closes good hwords.1
      have hafter : rest = readingsFrom (filteredAfter filtered [t]) ts := by
        rw [hrest]
        simp [filteredAfter]
      obtain ⟨ns, hns⟩ := ih hafter hwords.2
      exact ⟨n :: ns, .leaf hn hns⟩
  | @block opener closer inner rest opens closes good goodCloser same _ _ ihin ihout =>
    cases tokens with
    | nil => simp [readingsFrom] at hrs
    | cons t ts =>
      rw [readingsFrom, List.cons.injEq] at hrs
      obtain ⟨rfl, hrest⟩ := hrs
      have hno : ¬ t.IsFiltersPragma := fun hp => opens.ne_pragma hp.1
      rw [decide_eq_false hno, Bool.or_false] at hrest
      obtain ⟨us, us', rfl, hinner, hafter⟩ := exists_of_readingsFrom_eq_append hrest.symm
      cases us' with
      | nil => simp [readingsFrom] at hafter
      | cons c cs =>
        rw [readingsFrom, List.cons.injEq] at hafter
        obtain ⟨rfl, hafter⟩ := hafter
        have hno' : ¬ c.IsFiltersPragma := fun hp => closes.ne_pragma hp.1
        rw [decide_eq_false hno', Bool.or_false] at hafter
        simp only [List.forall_mem_cons, List.forall_mem_append] at hwords
        obtain ⟨body, hbody⟩ := ihin hinner hwords.2.1
        obtain ⟨ns, hns⟩ := ihout hafter hwords.2.2.2
        obtain ⟨filters, hopener⟩ :=
          (splitFilters_cases filtered t.value).resolve_left (fun h => good h.1) |>.2
        obtain ⟨others, hcloser⟩ :=
          (splitFilters_cases filtered c.value).resolve_left (fun h => goodCloser h.1) |>.2
        rw [show tagName filtered c.value = tagName filtered t.value from same] at hcloser
        exact ⟨_, .block opens closes hopener hcloser hbody hns⟩

/-- **The nodes of a tree are those that its tokens stand for.** -/
theorem exists_buildTree_iff {tokens : List Token} (hwords : ∀ t ∈ tokens, t.HasWords)
    {ns : List Node} :
    (∃ tree, buildTree tokens = .ok tree ∧ tree.body = ns) ↔ Reads false tokens ns := by
  have hbuild {ms : List Node} (h : Reads false tokens ms) :
      ∃ tree, buildTree tokens = .ok tree ∧ tree.body = ms := by
    have hsteps := h.steps (b := .empty) rfl
    obtain ⟨tree, hfinish, hbody⟩ :=
      Builder.exists_finish (b := Builder.empty.extend ms (Builder.pragmasOf tokens)) rfl
    refine ⟨tree, buildTree_eq_ok_iff.2 ⟨_, hsteps, hfinish⟩, ?_⟩
    simpa [Builder.extend, Builder.empty] using hbody
  constructor
  · rintro ⟨tree, htree, rfl⟩
    rcases buildTree_cases hwords with ⟨hnested, -⟩ | ⟨-, cause, r, herror, -⟩
    · obtain ⟨ms, hms⟩ := hnested.exists_reads rfl hwords
      obtain ⟨tree', htree', hbody⟩ := hbuild hms
      obtain rfl := Except.ok.inj (htree.symm.trans htree')
      rwa [hbody]
    · rw [herror] at htree
      simp at htree
  · exact hbuild

/-- A source is parsed if its tokens stand for nodes, which are those of the tree. -/
theorem exists_parse_iff {source : String} {name : Value} {d : Delimiters} {ns : List Node} :
    (∃ tree, parse source name d = .ok tree ∧ tree.body = ns) ↔
      ∃ tokens, tokenize source name d = .ok tokens ∧ Reads false tokens ns := by
  constructor
  · rintro ⟨tree, htree, hbody⟩
    obtain ⟨tokens, htokens, htree⟩ := parse_eq_ok_iff.1 htree
    have hwords := (tokenize_eq_ok_iff.1 htokens).hasWords
    exact ⟨tokens, htokens,
      (exists_buildTree_iff hwords).1 ⟨tree, parseTokens_eq_ok_iff.1 htree, hbody⟩⟩
  · rintro ⟨tokens, htokens, hreads⟩
    have hwords := (tokenize_eq_ok_iff.1 htokens).hasWords
    obtain ⟨tree, htree, hbody⟩ := (exists_buildTree_iff hwords).2 hreads
    exact ⟨tree, parse_eq_ok_iff.2 ⟨tokens, htokens, parseTokens_eq_ok_iff.2 htree⟩, hbody⟩

/-- The tokens of a source that is parsed stand for the nodes of its tree. -/
theorem reads_of_parse {source : String} {name : Value} {d : Delimiters} {tokens : List Token}
    {tree : Tree} (htokens : tokenize source name d = .ok tokens)
    (htree : parse source name d = .ok tree) : Reads false tokens tree.body := by
  obtain ⟨tokens', htokens', hreads⟩ := exists_parse_iff.1 ⟨tree, htree, rfl⟩
  rwa [Except.ok.inj (htokens.symm.trans htokens')]

/-! ## Sections of a tree -/

/-- The nodes have a section with the given tags and nodes among them, at any depth. -/
inductive HasBlock (head : Section) (body : List Node) : List Node → Prop
  /-- The section is the first node. -/
  | here {ns : List Node} : HasBlock head body (.block head body :: ns)
  /-- It is behind the first node. -/
  | behind {n : Node} {ns : List Node} (h : HasBlock head body ns) : HasBlock head body (n :: ns)
  /-- It is in the first node, which is a section itself. -/
  | inside {outer : Section} {ns ms : List Node} (h : HasBlock head body ns) :
    HasBlock head body (.block outer ns :: ms)

/-- No leaf is a section. -/
theorem Reading.leaf?_ne_block {r : Reading} {head : Section} {body : List Node} :
    r.leaf? ≠ some (.block head body) :=
  fun h => nomatch leaf?_eq_some_iff.1 h

/-- **A section stands for a stretch of the tokens**: its opening tag, the tokens that its nodes
stand for, and its closing tag. -/
theorem Reads.exists_of_hasBlock {filtered : Bool} {tokens : List Token} {ns : List Node}
    (h : Reads filtered tokens ns) {head : Section} {body : List Node}
    (hblock : HasBlock head body ns) :
    ∃ before opener inner closer after name filters others,
      tokens = before ++ opener :: (inner ++ closer :: after) ∧
      (opener.kind = .sectionStart ∨ opener.kind = .invertedStart) ∧ closer.kind = .sectionEnd ∧
      splitFilters (filteredAfter filtered before) opener.value = some (name, filters) ∧
      splitFilters (filteredAfter filtered before) closer.value = some (name, others) ∧
      head = sectionOf opener closer name filters ∧
      Reads (filteredAfter filtered before) inner body := by
  induction h with
  | nil => cases hblock
  | @leaf filtered t n ts ns node _ ih =>
    cases hblock with
    | here => exact absurd node Reading.leaf?_ne_block
    | inside _ => exact absurd node Reading.leaf?_ne_block
    | behind hblock =>
      obtain ⟨before, opener, inner, closer, after, name, filters, others, rfl, hrest⟩ := ih hblock
      rw [← filteredAfter_append] at hrest
      exact ⟨t :: before, opener, inner, closer, after, name, filters, others, rfl, hrest⟩
  | @block filtered opener closer name filters others inner rest body' ns opens closes names same
      within _ ihin ihout =>
    cases hblock with
    | here =>
      refine ⟨[], opener, inner, closer, rest, name, filters, others, rfl, opens, closes, ?_⟩
      rw [show filteredAfter filtered [] = filtered by simp [filteredAfter]]
      exact ⟨names, same, rfl, within⟩
    | behind hblock =>
      obtain ⟨before, opener', inner', closer', after, name', filters', others', rfl, hrest⟩ :=
        ihout hblock
      refine ⟨opener :: (inner ++ closer :: before), opener', inner', closer', after, name',
        filters', others', by simp, ?_⟩
      rw [filteredAfter_cons opens.ne_pragma, filteredAfter_append,
        filteredAfter_cons closes.ne_pragma]
      exact hrest
    | inside hblock =>
      obtain ⟨before, opener', inner', closer', after, name', filters', others', rfl, hrest⟩ :=
        ihin hblock
      refine ⟨opener :: before, opener', inner', closer', after ++ closer :: rest, name', filters',
        others', by simp, ?_⟩
      rw [filteredAfter_cons opens.ne_pragma]
      exact hrest

end Mustache
