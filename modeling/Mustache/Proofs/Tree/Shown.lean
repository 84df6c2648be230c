import Mustache.Proofs.Token.Shown
import Mustache.Proofs.Tree.Reads

/-!
# The tags that errors are about

An error of the parser is about a tag that the scanner has found, be it one that the scanner refuses
or one that does not fit among the others. The tags of a tree have been found by the scanner as
well, and the tree keeps their places.

## Main definitions

* `Mustache.Offends` — the tag behind a part of a source is what an error is about.
* `Mustache.Node.Within` — the nodes at any depth of a tree.
* `Mustache.Node.sought?` — the name and the filters that are looked up for a node.

## Main results

* `Mustache.exists_offends_of_parse` — the tag that an error of the parser is about.
* `Mustache.Node.Within.exists_finds` — the tag of a tree in its source.
-/

namespace Mustache

/-! ## Tags that are refused -/

theorem Misfit.ne_text {opened : List Reading} {r : Reading} {cause : Malformation}
    (h : Misfit opened r cause) : r.token.kind ≠ .text := by
  have hcloses (hc : r.Closes) : r.token.kind ≠ .text := by
    rw [show r.token.kind = .sectionEnd from hc]
    simp
  cases h with
  | unexpectedClose closes => exact hcloses closes
  | badClose closes _ => exact hcloses closes
  | mismatchedClose closes _ _ => exact hcloses closes
  | badTag names _ => rcases names with (hk | hk) | (hk | hk) <;> simp [hk]

/-- A section that is left open has its opening tag among the tags. -/
theorem mem_openAfter {opened rs : List Reading} {r : Reading} (h : r ∈ openAfter opened rs) :
    r ∈ opened ∨ r ∈ rs ∧ r.Opens := by
  induction rs generalizing opened with
  | nil => exact .inl h
  | cons r' rs ih =>
    rcases @ih (nextOpen opened r') h with hnext | ⟨hmem, hopens⟩
    · unfold nextOpen at hnext
      split at hnext
      · next hopens =>
        rcases List.mem_cons.1 hnext with rfl | hmem
        · exact .inr ⟨List.mem_cons_self, hopens⟩
        · exact .inl hmem
      · split at hnext
        · exact .inl (List.mem_of_mem_tail hnext)
        · exact .inl hnext
    · exact .inr ⟨List.mem_cons_of_mem _ hmem, hopens⟩

/-- **What the builder refuses is a tag** among the tokens. -/
theorem exists_refused {tokens : List Token} (hwords : ∀ t ∈ tokens, t.HasWords)
    {failure : BuildFailure} (h : buildTree tokens = .error failure) :
    ∃ cause t, failure = .refused cause t ∧ t ∈ tokens ∧ t.kind ≠ .text := by
  rcases buildTree_cases hwords with ⟨-, tree, htree, -⟩ | ⟨-, cause, r, herror, hcause⟩
  · simp [htree] at h
  · refine ⟨cause, r.token, Except.error.inj (h.symm.trans herror), ?_⟩
    rcases hcause with ⟨before, after, heq, -, hmisfit⟩ | ⟨-, hopen, -⟩
    · have hmem : r ∈ readingsFrom false tokens := by
        rw [show readingsFrom false tokens = _ from heq]
        simp
      exact ⟨token_mem_of_mem_readingsFrom hmem, hmisfit.ne_text⟩
    · obtain ⟨outer, houter⟩ := List.head?_eq_some_iff.1 hopen
      rcases mem_openAfter (houter ▸ List.mem_cons_self) with hmem | ⟨hmem, hopens⟩
      · simp at hmem
      · refine ⟨token_mem_of_mem_readingsFrom hmem, ?_⟩
        rcases hopens with hk | hk <;> simp [hk]

/-! ## Errors of the parser -/

section

variable {source : String} {name : Value} {d₀ d : Delimiters} {front body : List Char}

/-- **The tag behind `front` is what an error is about**: the scanner finds it there and refuses it,
or the builder refuses its token. -/
inductive Offends (source : String) (d₀ : Delimiters) (front : List Char) (d : Delimiters)
    (body : List Char) (cause : Malformation) : Prop
  | unread (refuses : Refuses d body cause)
  | unfit {tokens : List Token} {t : Token} (scanned : Scanned d₀ .start source.toList tokens)
    (refused : buildTree tokens = .error (.refused cause t)) (start : t.start = front.length)

theorem tokenize_eq_error {e : Malformed} (h : tokenize source name d₀ = .error e) :
    ∃ m, scan d₀ .start source.toList = .error m ∧ e.cause = m.cause ∧
      e.line = some (m.spot.place.line : Int) ∧ e.column = some (m.spot.place.column : Int) ∧
      e.name = name ∧ e.source = some source := by
  unfold tokenize at h
  split at h
  · simp at h
  · next m hm =>
    obtain rfl := Except.error.inj h
    exact ⟨m, hm, rfl, rfl, rfl, rfl, rfl⟩

/-- **The tag that an error of the parser is about**, whose place the error tells. -/
theorem exists_offends_of_parse {failure : ParseFailure}
    (h : parse source name d₀ = .error failure) :
    ∃ e front d body, failure = .malformed e ∧ Finds d₀ .start source.toList front d body ∧
      Offends source d₀ front d body e.cause ∧
      e.line = some ((placeBehind front).line : Int) ∧
      e.column = some ((placeBehind front).column : Int) ∧ e.source = some source := by
  unfold parse at h
  split at h
  · next e he =>
    obtain ⟨m, hscan, hcause, hline, hcolumn, -, hsource⟩ := tokenize_eq_error he
    obtain ⟨front, d, body, hfinds, hrefuses, hspot⟩ := scan_eq_error_iff.1 hscan
    rw [hspot, place_advance_start] at hline hcolumn
    exact ⟨e, front, d, body, (Except.error.inj h).symm, hfinds, hcause ▸ .unread hrefuses,
      hline, hcolumn, hsource⟩
  · next tokens htokens =>
    have hscanned := tokenize_eq_ok_iff.1 htokens
    unfold parseTokens at h
    split at h
    · simp at h
    · next cause t hbuild =>
      obtain ⟨_, _, heq, ht, htag⟩ := exists_refused hscanned.hasWords hbuild
      obtain ⟨rfl, rfl⟩ := BuildFailure.refused.inj heq
      obtain ⟨front, body, -, hfinds, -, -, hplace, hstart⟩ := hscanned.finds ht htag
      rw [place_advance_start] at hplace
      rw [Position.advance_start] at hstart
      refine ⟨_, front, t.delims, body, (Except.error.inj h).symm, hfinds,
        .unfit hscanned hbuild hstart, ?_, ?_, rfl⟩
      · rw [malformedAt, hplace]
      · rw [malformedAt, hplace]
    · next t hbuild =>
      obtain ⟨_, _, heq, -⟩ := exists_refused hscanned.hasWords hbuild
      simp at heq

end

/-! ## Tags of a tree -/

/-- The node is one of some nodes, or of the nodes in their sections, at any depth. -/
inductive Node.Within (n : Node) : List Node → Prop
  | here {ns : List Node} : n.Within (n :: ns)
  | behind {m : Node} {ns : List Node} (h : n.Within ns) : n.Within (m :: ns)
  | inside {head : Section} {body ns : List Node} (h : n.Within body) :
    n.Within (.block head body :: ns)

/-- What is looked up for a node, if anything is: the place of its tag, the name and the filters. -/
def Node.sought? : Node → Option (Place × String × List String)
  | .interpolation place name _ filters _ => some (place, name, filters)
  | .block head _ => some (head.place, head.name, head.filters)
  | .text _ _ | .inclusion _ _ _ | .comment _ _ | .delimiterChange _ _ | .pragma _ _
  | .flawed _ => none

theorem Reading.leaf?_eq_interpolation {r : Reading} {place : Place} {name : String}
    {escaped : Bool} {filters : List String} {delims : Delimiters}
    (h : r.leaf? = some (.interpolation place name escaped filters delims)) :
    r.token.kind ≠ .text ∧ r.token.place = place ∧
      splitFilters r.filtered r.token.value = some (name, filters) := by
  cases leaf?_eq_some_iff.1 h with
  | interpolation hk names => exact ⟨by rcases hk with hk | hk <;> simp [hk], rfl, names⟩

/-- A tag with a name and filters has a token. -/
theorem Reads.exists_of_within {filtered : Bool} {tokens : List Token} {ns : List Node}
    (h : Reads filtered tokens ns) {n : Node} (hn : n.Within ns) {place : Place} {name : String}
    {filters : List String} (htag : n.sought? = some (place, name, filters)) :
    ∃ t ∈ tokens, t.kind ≠ .text ∧ t.place = place ∧
      ∃ active, splitFilters active t.value = some (name, filters) := by
  induction h with
  | nil => cases hn
  | @leaf filtered t m ts ns node _ ih =>
    cases hn with
    | here =>
      cases n with
      | interpolation =>
        obtain ⟨rfl, rfl, rfl⟩ : _ ∧ _ ∧ _ := by simpa [Node.sought?] using htag
        obtain ⟨hk, hplace, hsplit⟩ := Reading.leaf?_eq_interpolation node
        exact ⟨t, List.mem_cons_self, hk, hplace, _, hsplit⟩
      | block => exact absurd node Reading.leaf?_ne_block
      | _ => simp [Node.sought?] at htag
    | inside _ => exact absurd node Reading.leaf?_ne_block
    | behind hn =>
      obtain ⟨u, hu, hrest⟩ := ih hn
      exact ⟨u, List.mem_cons_of_mem t hu, hrest⟩
  | @block filtered opener closer name' filters' others inner rest body ns opens closes names same
      _ _ ihin ihout =>
    cases hn with
    | here =>
      obtain ⟨hplace, rfl, rfl⟩ : opener.place = place ∧ name' = name ∧ filters' = filters := by
        simpa [Node.sought?, sectionOf] using htag
      refine ⟨opener, List.mem_cons_self, ?_, hplace, filtered, names⟩
      rcases opens with hk | hk <;> simp [show opener.kind = _ from hk]
    | inside hn =>
      obtain ⟨u, hu, hrest⟩ := ihin hn
      exact ⟨u, by simp [hu], hrest⟩
    | behind hn =>
      obtain ⟨u, hu, hrest⟩ := ihout hn
      exact ⟨u, by simp [hu], hrest⟩

/-- **A tag of a tree in its source**: the scanner finds it, and it stands at the place that the
tree keeps. -/
theorem Node.Within.exists_finds {source : String} {name' : Value} {d₀ : Delimiters} {tree : Tree}
    (htree : parse source name' d₀ = .ok tree) {n : Node} (hn : n.Within tree.body)
    {place : Place} {name : String} {filters : List String}
    (htag : n.sought? = some (place, name, filters)) :
    ∃ front d body tag active, Finds d₀ .start source.toList front d body ∧
      readTag d body = .ok tag ∧
      splitFilters active (String.ofList tag.value) = some (name, filters) ∧
      place = placeBehind front := by
  obtain ⟨tokens, htokens, hreads⟩ := exists_parse_iff.1 ⟨tree, htree, rfl⟩
  obtain ⟨t, ht, hk, rfl, active, hsplit⟩ := hreads.exists_of_within hn htag
  obtain ⟨front, body, tag, hfinds, hread, hvalue, hplace, -⟩ :=
    (tokenize_eq_ok_iff.1 htokens).finds ht hk
  rw [place_advance_start] at hplace
  exact ⟨front, t.delims, body, tag, active, hfinds, hread, hvalue ▸ hsplit, hplace⟩

end Mustache
