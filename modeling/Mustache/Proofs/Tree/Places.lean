import Mustache.Proofs.Token.Places
import Mustache.Proofs.Tree.Shown

/-!
# The places of nodes and of errors

Every node of a tree begins with one of the tokens, whose place it keeps, and every error is about
a tag, whose place it tells. So both point into the source as the tokens do.

## Main definitions

* `Mustache.Node.BeginsWith` — the token that a node begins with.
* `Mustache.Malformed.PointsAt` — an error tells the place of an existing character.

## Main results

* `Mustache.Reads.exists_beginsWith` — every node begins with one of the tokens.
* `Mustache.places_exact` — the places of tokens, of errors and of nodes.
-/

namespace Mustache

/-! ## Nodes -/

/-- **A node begins with a token**: it is the node of that token, or the section that it opens. -/
inductive Node.BeginsWith (t : Token) : Node → Prop
  | leaf {n : Node} {filtered : Bool} (node : (Reading.mk t filtered).leaf? = some n) :
    Node.BeginsWith t n
  | block {filtered : Bool} {closer : Token} {name : String} {filters : List String}
    {body : List Node} (opens : (Reading.mk t filtered).Opens)
    (names : splitFilters filtered t.value = some (name, filters)) :
    Node.BeginsWith t (.block (sectionOf t closer name filters) body)

/-- The place that a node keeps. Nodes that stand for no tag have none. -/
def Node.place? : Node → Option Place
  | .text place _ | .interpolation place _ _ _ _ | .inclusion place _ _ | .comment place _
  | .delimiterChange place _ | .pragma place _ => some place
  | .block head _ => some head.place
  | .flawed _ => none

theorem Reading.place?_of_leaf? {r : Reading} {n : Node} (h : r.leaf? = some n) :
    n.place? = some r.token.place := by
  cases leaf?_eq_some_iff.1 h <;> rfl

/-- A node keeps the place of the token that it begins with. -/
theorem Node.BeginsWith.place?_eq {t : Token} {n : Node} (h : n.BeginsWith t) :
    n.place? = some t.place := by
  cases h with
  | leaf node => exact Reading.place?_of_leaf? node
  | block _ _ => rfl

/-- **Every node of a tree, at any depth, begins with one of its tokens.** -/
theorem Reads.exists_beginsWith {filtered : Bool} {tokens : List Token} {ns : List Node}
    (h : Reads filtered tokens ns) {n : Node} (hn : n.Within ns) :
    ∃ t ∈ tokens, n.BeginsWith t := by
  induction h with
  | nil => cases hn
  | @leaf _ t _ _ _ node _ ih =>
    cases hn with
    | here => exact ⟨t, List.mem_cons_self, .leaf node⟩
    | inside _ => exact absurd node Reading.leaf?_ne_block
    | behind hn =>
      obtain ⟨u, hu, hbegins⟩ := ih hn
      exact ⟨u, List.mem_cons_of_mem t hu, hbegins⟩
  | @block _ opener _ _ _ _ _ _ _ _ opens _ names _ _ _ ihin ihout =>
    cases hn with
    | here => exact ⟨opener, List.mem_cons_self, .block opens names⟩
    | inside hn =>
      obtain ⟨u, hu, hbegins⟩ := ihin hn
      exact ⟨u, by simp [hu], hbegins⟩
    | behind hn =>
      obtain ⟨u, hu, hbegins⟩ := ihout hn
      exact ⟨u, by simp [hu], hbegins⟩

/-! ## Errors -/

/-- **An error points at an offset**: there is a character, and the error tells its place. -/
structure Malformed.PointsAt (e : Malformed) (source : List Char) (offset : Nat) : Prop where
  lt_length : offset < source.length
  place : ∃ p : Place, p.IsAt source offset ∧ e.line = some (p.line : Int) ∧
    e.column = some (p.column : Int)

/-- There is always an opening delimiter to look for, if there is one at the beginning. -/
theorem Finds.opening_ne_nil {d d' : Delimiters} {pos : Position} {text front body : List Char}
    (h : Finds d pos text front d' body) (hd : d.opening.toList ≠ []) :
    d'.opening.toList ≠ [] := by
  induction h with
  | here _ => exact hd
  | later _ _ change _ ih => exact ih (Delimiters.opening_ne_nil_of_delimsAfter change hd)

section

variable {source : String} {name : Value} {d₀ : Delimiters}

/-- **An error of the scanner points at the opening delimiter** of the tag that it refuses. -/
theorem pointsAt_of_tokenize {e : Malformed} (hd₀ : d₀.opening.toList ≠ [])
    (h : tokenize source name d₀ = .error e) :
    ∃ front d body, Finds d₀ .start source.toList front d body ∧ Refuses d body e.cause ∧
      e.PointsAt source.toList front.length ∧
      Text.OccursAt d.opening.toList source.toList front.length := by
  obtain ⟨m, hscan, hcause, hline, hcolumn, -⟩ := tokenize_eq_error h
  obtain ⟨front, d, body, hfinds, hrefuses, hspot⟩ := scan_eq_error_iff.1 hscan
  rw [hspot, place_advance_start] at hline hcolumn
  have hsource := hfinds.eq_append
  rw [List.append_assoc] at hsource
  refine ⟨front, d, body, hfinds, hcause ▸ hrefuses, ⟨?_, _, ?_, hline, hcolumn⟩, body, ?_⟩
  · have hpos := List.length_pos_iff.2 (hfinds.opening_ne_nil hd₀)
    rw [hsource, List.length_append, List.length_append]
    omega
  · rw [hsource]
    exact Place.isAt_placeBehind front _
  · rw [hsource, List.drop_left]

/-- The error for a token points where the token begins. -/
theorem Token.BeginsIn.pointsAt {chars : List Char} {t : Token} (h : t.BeginsIn chars)
    (cause : Malformation) (name : Value) (shown : Option String) :
    (malformedAt cause t name shown).PointsAt chars t.start :=
  ⟨h.lt_length, t.place, h.place, rfl, rfl⟩

/-- **An error of the builder is about a tag** among the tokens. -/
theorem exists_malformedAt_of_parseTokens {tokens : List Token}
    (hwords : ∀ t ∈ tokens, t.HasWords) {shown : Option String} {failure : ParseFailure}
    (h : parseTokens tokens name shown = .error failure) :
    ∃ cause, ∃ t ∈ tokens, t.kind ≠ .text ∧ buildTree tokens = .error (.refused cause t) ∧
      failure = .malformed (malformedAt cause t name shown) := by
  unfold parseTokens at h
  split at h
  · simp at h
  · next cause t hbuild =>
    obtain ⟨_, _, heq, ht, htag⟩ := exists_refused hwords hbuild
    obtain ⟨rfl, rfl⟩ := BuildFailure.refused.inj heq
    exact ⟨cause, t, ht, htag, hbuild, (Except.error.inj h).symm⟩
  · next t hbuild =>
    obtain ⟨_, _, heq, -⟩ := exists_refused hwords hbuild
    simp at heq

/-- **Places are exact.** A place, which counts the newlines in front of an offset and the
characters behind the last of them, belongs to one offset.

* An error of the scanner is about a tag that it finds and refuses, and points at the opening
  delimiter of that tag.
* The tokens begin at the characters whose places they tell, and follow one another by their places.
* An error of the builder is about a tag among the tokens, and points where that one begins.
* Every node of the tree, at any depth, begins with one of the tokens and keeps its place. -/
theorem places_exact (hd₀ : d₀.opening ≠ "") :
    (∀ (p : Place) (o o' : Nat), p.IsAt source.toList o → p.IsAt source.toList o' → o = o') ∧
    (∀ e, tokenize source name d₀ = .error e →
      ∃ front d body, Finds d₀ .start source.toList front d body ∧ Refuses d body e.cause ∧
        e.PointsAt source.toList front.length ∧
        Text.OccursAt d.opening.toList source.toList front.length) ∧
    ∀ tokens, tokenize source name d₀ = .ok tokens →
      (∀ t ∈ tokens, t.BeginsIn source.toList) ∧
      (tokens.Pairwise fun t u => t.place.Before u.place) ∧
      (∀ name' shown failure, parseTokens tokens name' shown = .error failure →
        ∃ e, ∃ t ∈ tokens, failure = .malformed e ∧ t.kind ≠ .text ∧
          buildTree tokens = .error (.refused e.cause t) ∧ e.PointsAt source.toList t.start) ∧
      ∀ name' shown tree, parseTokens tokens name' shown = .ok tree →
        ∀ n : Node, n.Within tree.body →
          ∃ t ∈ tokens, n.BeginsWith t ∧ n.place? = some t.place := by
  have hd : d₀.opening.toList ≠ [] := fun hnil => hd₀ (String.toList_eq_nil_iff.1 hnil)
  refine ⟨fun p o o' ho ho' => ho.offset_eq ho', fun e he => pointsAt_of_tokenize hd he,
    fun tokens htokens => ?_⟩
  have hscanned := tokenize_eq_ok_iff.1 htokens
  refine ⟨fun t ht => hscanned.beginsIn hd ht, hscanned.pairwise_before hd,
    fun name' shown failure hfailure => ?_, fun name' shown tree htree n hn => ?_⟩
  · obtain ⟨cause, t, ht, htag, hbuild, rfl⟩ :=
      exists_malformedAt_of_parseTokens hscanned.hasWords hfailure
    exact ⟨_, t, ht, rfl, htag, hbuild, (hscanned.beginsIn hd ht).pointsAt cause name' shown⟩
  · have hreads := (exists_buildTree_iff hscanned.hasWords).1
      ⟨tree, parseTokens_eq_ok_iff.1 htree, rfl⟩
    obtain ⟨t, ht, hbegins⟩ := hreads.exists_beginsWith hn
    exact ⟨t, ht, hbegins, hbegins.place?_eq⟩

/-- Text over two lines, and a tag in the second one. -/
theorem places_exact_two_lines : Delimiters.usual.opening ≠ "" ∧ ∃ source tokens tree,
    source = "a\r\nb\x7b\x7bc\x7d\x7d" ∧ tokenize source .null .usual = .ok tokens ∧
    tokens = [⟨.text, "a\r\nb", ⟨1, 0⟩, 0, 4, .usual, ""⟩,
      ⟨.interpolation, "c", ⟨2, 1⟩, 4, 9, .usual, ""⟩] ∧
    parseTokens tokens .null none = .ok tree ∧
    tree.body = [.text ⟨1, 0⟩ "a\r\nb", .interpolation ⟨2, 1⟩ "c" true [] .usual] ∧
    (∀ t ∈ tokens, t.BeginsIn source.toList) ∧
    (tokens.Pairwise fun t u => t.place.Before u.place) ∧
    ∀ n : Node, n.Within tree.body → ∃ t ∈ tokens, n.BeginsWith t ∧ n.place? = some t.place := by
  have hopening : Delimiters.usual.opening ≠ "" := by decide
  have htokens : tokenize "a\r\nb\x7b\x7bc\x7d\x7d" .null .usual =
      .ok [⟨.text, "a\r\nb", ⟨1, 0⟩, 0, 4, .usual, ""⟩,
        ⟨.interpolation, "c", ⟨2, 1⟩, 4, 9, .usual, ""⟩] :=
    eq_ok_of_toOption_eq_some (by decide +kernel)
  obtain ⟨hbegins, hbefore, -, hnodes⟩ := (places_exact hopening).2.2 _ htokens
  exact ⟨hopening, _, _, _, rfl, htokens, rfl, rfl, rfl, hbegins, hbefore, hnodes .null none _ rfl⟩

end

end Mustache
