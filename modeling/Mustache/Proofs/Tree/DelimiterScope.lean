import Mustache.Proofs.Token.Boundary
import Mustache.Proofs.Tree.Reads

/-!
# The scope of delimiters

A change of delimiters is read twice: by the scanner, which goes on under the new pair, and by
the builder, which puts the pair into the tree. Both take the two words of the tag, and the
scanner lets no tag pass that has anything else in it; so the pairs in a tree are those that were
in effect when its tags were read. Sections play no part in this: a change inside of one lasts
beyond its closing tag.

## Main definitions

* `Mustache.Delimiters.InForce` — the pair in effect behind some tokens.
* `Mustache.ScopedTag`, `Mustache.scopedOf`, `Mustache.scopedTokens` — the tags that carry a pair,
  as a traversal of a tree meets them and as they stand among the tokens.

## Main results

* `Mustache.Scanned.carries` — every token of a run carries the pair in effect before it.
* `Mustache.Reads.scopedOf` — the pairs in the nodes that tokens stand for.
* `Mustache.tokenize_delims` — the same for a source and its tree.
-/

namespace Mustache

/-! ## The pair in effect -/

/-- **The pair in effect behind some tokens** of a source that starts under `d`: `d` itself as long
as nothing has changed it, then the two words of the last change. -/
inductive Delimiters.InForce (d : Delimiters) : List Token → Delimiters → Prop
  /-- No tag has changed the delimiters. -/
  | initial {tokens : List Token} (none : ∀ t ∈ tokens, t.kind ≠ .delimiterChange) :
    InForce d tokens d
  /-- The last change was to these words. -/
  | changed {before after : List Token} {t : Token} {first second : List Char}
    (kind : t.kind = .delimiterChange) (words : Text.words t.value.toList = [first, second])
    (last : ∀ u ∈ after, u.kind ≠ .delimiterChange) :
    InForce d (before ++ t :: after) ⟨String.ofList first, String.ofList second⟩

/-- A token more that changes nothing. -/
theorem Delimiters.InForce.snoc {d e : Delimiters} {tokens : List Token} (h : d.InForce tokens e)
    {t : Token} (hk : t.kind ≠ .delimiterChange) : d.InForce (tokens ++ [t]) e := by
  cases h with
  | initial none =>
    refine .initial fun u hu => ?_
    rcases List.mem_append.1 hu with hu | hu
    · exact none u hu
    · rw [List.mem_singleton.1 hu]
      exact hk
  | @changed before after u first second kind words last =>
    rw [List.append_assoc, List.cons_append]
    refine .changed kind words fun v hv => ?_
    rcases List.mem_append.1 hv with hv | hv
    · exact last v hv
    · rw [List.mem_singleton.1 hv]
      exact hk

/-- If the changes among some tokens have two words, then what the scanner goes on with behind them
is the pair in effect. -/
theorem Delimiters.inForce_after (d : Delimiters) {tokens : List Token}
    (hwords : ∀ t ∈ tokens, t.HasWords) : d.InForce tokens (d.after tokens) := by
  induction tokens using List.reverseRecOn with
  | nil => exact .initial (by simp)
  | append_singleton tokens t ih =>
    rw [Delimiters.after_append, Delimiters.after, List.foldl_cons, List.foldl_nil]
    by_cases hk : t.kind = .delimiterChange
    · obtain ⟨changed, hchanged⟩ := Option.isSome_iff_exists.1 (hwords t (by simp) hk)
      obtain ⟨first, second, hsplit, -, -, rfl⟩ := Delimiters.ofWords?_eq_some_iff.1 hchanged
      rw [if_pos hk, hchanged]
      exact .changed hk hsplit (by simp)
    · rw [if_neg hk]
      exact (ih fun u hu => hwords u (List.mem_append_left _ hu)).snoc hk

/-! ## The pairs of the tokens -/

/-- Every token carries the pair that the scanner goes on with behind the tokens before it. -/
def Delimiters.CarriedBy : Delimiters → List Token → Prop
  | _, [] => True
  | d, t :: ts => t.delims = d ∧ (d.after [t]).CarriedBy ts

theorem Delimiters.carriedBy_append {d : Delimiters} {ts us : List Token} :
    d.CarriedBy (ts ++ us) ↔ d.CarriedBy ts ∧ (d.after ts).CarriedBy us := by
  induction ts generalizing d with
  | nil => simp [CarriedBy, Delimiters.after]
  | cons t ts ih =>
    rw [List.cons_append, CarriedBy, CarriedBy, ih, and_assoc, ← Delimiters.after_append,
      List.singleton_append]

theorem Delimiters.carriedBy_textToken (d : Delimiters) (pos : Position) (cs : List Char) :
    d.CarriedBy (textToken d pos cs) := by
  unfold textToken
  split
  · trivial
  · exact ⟨rfl, trivial⟩

/-- **Every token of a run carries the pair in effect before it.** A change of delimiters and the
text in front of it still carry the old pair. -/
theorem Scanned.carries {d : Delimiters} {pos : Position} {text : List Char} {tokens : List Token}
    (h : Scanned d pos text tokens) : d.CarriedBy tokens := by
  induction h with
  | @last d pos text found => exact Delimiters.carriedBy_textToken d pos text
  | @tag d changed pos text before body tag tokens found read change rest ih =>
    rw [Delimiters.carriedBy_append, Delimiters.after_tagTokens change]
    refine ⟨?_, ih⟩
    rw [tagTokens_eq, Delimiters.carriedBy_append, Delimiters.after_textToken]
    exact ⟨Delimiters.carriedBy_textToken _ _ _, rfl, trivial⟩

/-! ## The pairs of the nodes -/

/-- A tag that has a pair of delimiters in the tree. -/
structure ScopedTag where
  kind : TokenKind
  place : Place
  delims : Delimiters

mutual

/-- The tags with a pair of delimiters that a traversal of a node meets, in order. -/
def Node.scoped : Node → List ScopedTag
  | .interpolation place _ escaped _ delims =>
    [⟨if escaped then .interpolation else .rawInterpolation, place, delims⟩]
  | .block head body =>
    ⟨if head.inverted then .invertedStart else .sectionStart, head.place, head.delims⟩ ::
      scopedOf body
  | .delimiterChange place delims => [⟨.delimiterChange, place, delims⟩]
  | .text .. | .inclusion .. | .comment .. | .pragma .. | .flawed _ => []

/-- The tags with a pair of delimiters that a traversal of some nodes meets, in order. -/
def scopedOf : List Node → List ScopedTag
  | [] => []
  | n :: ns => n.scoped ++ scopedOf ns

end

/-- The tags among some tokens that have a pair of delimiters in the tree. Each comes with the
tokens behind which this pair is in effect: those before an interpolation or an opening tag, and
those up to and including a change. -/
def scopedTokens (before : List Token) : List Token → List (Token × List Token)
  | [] => []
  | t :: ts =>
    match t.kind with
    | .interpolation | .rawInterpolation | .sectionStart | .invertedStart =>
      (t, before) :: scopedTokens (before ++ [t]) ts
    | .delimiterChange => (t, before ++ [t]) :: scopedTokens (before ++ [t]) ts
    | .text | .sectionEnd | .inclusion | .comment | .pragma => scopedTokens (before ++ [t]) ts

theorem scopedTokens_append (before ts us : List Token) :
    scopedTokens before (ts ++ us) = scopedTokens before ts ++ scopedTokens (before ++ ts) us := by
  induction ts generalizing before with
  | nil => simp [scopedTokens]
  | cons t ts ih =>
    have hmore : before ++ [t] ++ ts = before ++ t :: ts := by simp
    rw [List.cons_append, scopedTokens, scopedTokens, ih, hmore]
    cases t.kind <;> rfl

/-- A tag that a traversal meets is the given one among the tokens, and its pair is in effect
behind the tokens that come with it. -/
structure ScopedTag.IsOf (d : Delimiters) (s : ScopedTag) (entry : Token × List Token) :
    Prop where
  kind : s.kind = entry.1.kind
  place : s.place = entry.1.place
  inForce : d.InForce entry.2 s.delims

section

variable {d : Delimiters} {before : List Token} {t : Token} {filtered : Bool}

/-- The node of a token that neither opens nor closes a section has the pair in effect there. -/
theorem Reading.scoped_of_leaf? {n : Node} (h : (Reading.mk t filtered).leaf? = some n)
    (hbefore : ∀ u ∈ before, u.HasWords) (ht : t.delims = d.after before) :
    List.Forall₂ (ScopedTag.IsOf d) n.scoped (scopedTokens before [t]) := by
  have hpair : d.InForce before t.delims := by
    rw [ht]
    exact Delimiters.inForce_after d hbefore
  cases leaf?_eq_some_iff.1 h with
  | text hk | inclusion hk | comment hk | pragma hk =>
    simp only [Node.scoped, scopedTokens, show t.kind = _ from hk]
    exact .nil
  | interpolation hk _ =>
    rcases hk with hk | hk <;> dsimp only at hk
    all_goals
      simp only [Node.scoped, scopedTokens, hk]
      exact .cons ⟨by simp [hk], rfl, hpair⟩ .nil
  | delimiterChange hk words =>
    dsimp only at hk words
    simp only [Node.scoped, scopedTokens, hk]
    exact .cons ⟨hk.symm, rfl, .changed hk words (by simp)⟩ .nil

/-- The opening tag of a section has the pair in effect there. -/
theorem isOf_sectionOf (opens : (Reading.mk t filtered).Opens) (hbefore : ∀ u ∈ before, u.HasWords)
    (ht : t.delims = d.after before) (closer : Token) (name : String) (filters : List String)
    (body : List Node) (inner : List Token) :
    ∃ s, (Node.block (sectionOf t closer name filters) body).scoped = s :: scopedOf body ∧
      scopedTokens before (t :: inner) = (t, before) :: scopedTokens (before ++ [t]) inner ∧
      ScopedTag.IsOf d s (t, before) := by
  refine ⟨⟨t.kind, t.place, t.delims⟩, ?_, ?_, rfl, rfl, ?_⟩
  · rw [Node.scoped, sectionOf]
    rcases opens with hk | hk <;> simp [show t.kind = _ from hk]
  · rw [scopedTokens]
    rcases opens with hk | hk <;> simp only [show t.kind = _ from hk]
  · rw [ht]
    exact Delimiters.inForce_after d hbefore

end

/-- **The pairs in the nodes that tokens stand for** are those in effect at the tags.

**Proof sketch.** Induction on the grammar. A closing tag has no pair in the tree and changes
none, so behind a section the pair is the one that its nodes leave behind. -/
theorem Reads.scopedOf {filtered : Bool} {tokens : List Token} {ns : List Node}
    (h : Reads filtered tokens ns) {d : Delimiters} (before : List Token)
    (hwords : ∀ t ∈ before ++ tokens, t.HasWords) (hcarry : (d.after before).CarriedBy tokens) :
    List.Forall₂ (ScopedTag.IsOf d) (Mustache.scopedOf ns) (scopedTokens before tokens) := by
  induction h generalizing before with
  | nil => exact .nil
  | @leaf filtered t n ts ns node _ ih =>
    rw [← List.singleton_append (l := ts)] at hwords hcarry ⊢
    rw [← List.append_assoc] at hwords
    rw [Delimiters.carriedBy_append, ← Delimiters.after_append] at hcarry
    rw [scopedTokens_append, Mustache.scopedOf]
    have hbefore : ∀ u ∈ before, u.HasWords := fun u hu => hwords u (by simp [hu])
    exact List.rel_append (Reading.scoped_of_leaf? node hbefore hcarry.1.1) (ih _ hwords hcarry.2)
  | @block filtered opener closer name filters others inner rest body ns opens closes names same
      _ _ ihin ihout =>
    have hbefore : ∀ u ∈ before, u.HasWords := fun u hu => hwords u (List.mem_append_left _ hu)
    obtain ⟨hopener, hrest⟩ := hcarry
    rw [← Delimiters.after_append, Delimiters.carriedBy_append, ← Delimiters.after_append] at hrest
    obtain ⟨hinner, -, houter⟩ := hrest
    rw [← Delimiters.after_append] at houter
    obtain ⟨s, hs, htokens, hof⟩ := isOf_sectionOf opens hbefore hopener closer name filters body
      (inner ++ closer :: rest)
    have hclose : scopedTokens (before ++ [opener] ++ inner) (closer :: rest) =
        scopedTokens (before ++ [opener] ++ inner ++ [closer]) rest := by
      rw [scopedTokens]
      simp only [show closer.kind = .sectionEnd from closes]
    rw [Mustache.scopedOf, hs, htokens, scopedTokens_append, hclose, List.cons_append]
    refine .cons hof (List.rel_append (ihin _ ?_ hinner) (ihout _ ?_ houter))
    · intro u hu
      refine hwords u ?_
      simp only [List.mem_append, List.mem_cons, List.not_mem_nil, or_false] at hu ⊢
      tauto
    · intro u hu
      refine hwords u ?_
      simp only [List.mem_append, List.mem_cons, List.not_mem_nil, or_false] at hu ⊢
      tauto

/-! ## Sources and their trees -/

/-- **The scope of delimiters.** Every token of a source carries the pair in effect before it: the
initial one, or the two words of the last change, at whatever depth of sections that was. Each pair
that a tag sets has two words without an equals sign, so the parser finds two of them as well. In
the tree, the interpolations and the sections carry the pair in effect at their tags, and a change
carries the pair that is in effect from there on. -/
theorem tokenize_delims {source : String} {scanned : Value} {d : Delimiters} {tokens : List Token}
    (h : tokenize source scanned d = .ok tokens) (name : Value) (shown : Option String) :
    (∀ before t after, tokens = before ++ t :: after → d.InForce before t.delims) ∧
    (∀ t ∈ tokens, t.kind = .delimiterChange → ∃ first second,
      Text.words t.value.toList = [first, second] ∧
        ∀ w ∈ [first, second], w ≠ [] ∧ ∀ c ∈ w, Text.isBlank c = false ∧ c ≠ '=') ∧
    (∀ t, parseTokens tokens name shown ≠ .error (.notTwoWords t)) ∧
    ∀ tree, parseTokens tokens name shown = .ok tree →
      List.Forall₂ (ScopedTag.IsOf d) (scopedOf tree.body) (scopedTokens [] tokens) := by
  have hrun := tokenize_eq_ok_iff.1 h
  have hwords := hrun.hasWords
  refine ⟨?_, ?_, ?_, ?_⟩
  · rintro before t after rfl
    have hcarry := Delimiters.carriedBy_append.1 hrun.carries
    rw [hcarry.2.1]
    exact Delimiters.inForce_after d fun u hu => hwords u (List.mem_append_left _ hu)
  · intro t ht hk
    obtain ⟨changed, hchanged⟩ := Option.isSome_iff_exists.1 (hwords t ht hk)
    obtain ⟨first, second, hsplit, hfirst, hsecond, -⟩ :=
      Delimiters.ofWords?_eq_some_iff.1 hchanged
    refine ⟨first, second, hsplit, fun w hw => ?_⟩
    have hword : Text.IsWord w := Text.isWord_of_mem_words (hsplit ▸ hw)
    refine ⟨hword.1, fun c hc => ⟨hword.2 c hc, ?_⟩⟩
    rintro rfl
    simp only [List.mem_cons, List.not_mem_nil, or_false] at hw
    rcases hw with rfl | rfl
    · exact hfirst hc
    · exact hsecond hc
  · intro t ht
    unfold parseTokens at ht
    rcases buildTree_cases hwords with ⟨-, tree, htree, -⟩ | ⟨-, cause, r, herror, -⟩
    · simp [htree] at ht
    · simp [herror] at ht
  · intro tree htree
    have hreads := (exists_buildTree_iff hwords).1 ⟨tree, parseTokens_eq_ok_iff.1 htree, rfl⟩
    exact hreads.scopedOf [] hwords hrun.carries

/-- A change inside of a section lasts beyond its closing tag. -/
theorem tokenize_delims_change : ∃ tokens,
    tokenize "\x7b\x7b#a\x7d\x7d\x7b\x7b=<% %>=\x7d\x7d<%/a%><%b%>" .null .usual = .ok tokens ∧
      ∃ tree, parseTokens tokens .null none = .ok tree ∧
        List.Forall₂ (ScopedTag.IsOf .usual) (scopedOf tree.body) (scopedTokens [] tokens) ∧
        (scopedOf tree.body).map ScopedTag.delims = [.usual, ⟨"<%", "%>"⟩, ⟨"<%", "%>"⟩] := by
  have hok : ((tokenize "\x7b\x7b#a\x7d\x7d\x7b\x7b=<% %>=\x7d\x7d<%/a%><%b%>" .null
      .usual).toOption.bind fun tokens => (parseTokens tokens .null none).toOption.map fun tree =>
        (scopedOf tree.body).map ScopedTag.delims) =
      some [.usual, ⟨"<%", "%>"⟩, ⟨"<%", "%>"⟩] := by
    decide +kernel
  obtain ⟨tokens, htokens, hok⟩ := Option.bind_eq_some_iff.1 hok
  obtain ⟨tree, htree, hdelims⟩ := Option.map_eq_some_iff.1 hok
  have htokens := eq_ok_of_toOption_eq_some htokens
  have htree := eq_ok_of_toOption_eq_some htree
  exact ⟨tokens, htokens, tree, htree, (tokenize_delims htokens .null none).2.2.2 tree htree,
    hdelims⟩

end Mustache
