import Mustache.Proofs.Token.Found
import Mustache.Proofs.Token.Slice

/-!
# Tags without content

A tag needs content. Where nothing but blanks stands between an opening and the closing delimiter,
the source is refused at this opening delimiter, whatever follows. But the sigil of a tag is read
before its closing delimiter is looked for. So a closing delimiter that begins with a sigil, and
stands directly behind the opening one, is not seen: its first character says of which kind the tag
is, and the tag goes on to the next closing delimiter.

## Main results

* `Mustache.readTag_of_blanks` — blanks are no content.
* `Mustache.readTag_of_sigil` — a sigil at the start of a closing delimiter.
* `Mustache.tokenize_of_blanks` — a source with a tag without content.
-/

namespace Mustache

variable {d : Delimiters} {blanks rest : List Char}

/-- There is nothing left of blanks. -/
theorem Text.trim_of_blanks (h : ∀ c ∈ blanks, Text.isBlank c = true) : Text.trim blanks = [] := by
  rw [Text.trim, List.dropWhile_eq_nil_iff.2 h]
  rfl

/-- A blank is no sigil. -/
theorem not_mem_sigils_of_isBlank {c : Char} (hc : Text.isBlank c = true) (kind : TokenKind) :
    (c, kind) ∉ sigils := by
  intro hmem
  have hall : sigils.all (fun entry => !Text.isBlank entry.1) = true := by decide
  have hnot := List.all_eq_true.1 hall _ hmem
  simp [hc] at hnot

/-- **Blanks are no content**: a tag is refused if only blanks stand between its delimiters. There
has to be a blank, or a closing delimiter that does not begin with a sigil. -/
theorem readTag_of_blanks (hd : Text.IsWord d.closing.toList)
    (hblanks : ∀ c ∈ blanks, Text.isBlank c = true)
    (hsigil : blanks ≠ [] ∨ ∀ c ∈ d.closing.toList.head?, ∀ kind, (c, kind) ∉ sigils) :
    readTag d (blanks ++ d.closing.toList ++ rest) = .error .emptyTag := by
  have hnone : sigilOf (blanks ++ d.closing.toList ++ rest) = ([], .interpolation) := by
    refine sigilOf_eq_iff.2 (.absent fun c hc kind => ?_)
    cases blanks with
    | nil =>
      obtain ⟨first, more, hclosing⟩ := List.exists_cons_of_ne_nil hd.1
      rw [hclosing] at hc hsigil
      exact hsigil.resolve_left (by simp) c hc kind
    | cons b bs =>
      obtain rfl : b = c := by simpa using hc
      exact not_mem_sigils_of_isBlank (hblanks b (by simp)) kind
  have hfirst : Text.cut? d.closing.toList (d.closing.toList ++ rest) = some ([], rest) :=
    Text.cut?_eq_some_iff.2 ⟨rfl, by simp⟩
  have hcut : Text.cut? d.closing.toList (blanks ++ d.closing.toList ++ rest) =
      some (blanks, rest) := by
    rw [List.append_assoc, Text.cut?_blank_append hd hblanks, hfirst]
    simp
  unfold readTag
  simp only [hnone, closerOf, List.length_nil, List.drop_zero, hcut, Text.trim_of_blanks hblanks]
  rfl

/-- **A sigil at the start of a closing delimiter** that stands directly behind the opening one is
read as the sigil of the tag, so that the rest of the delimiter becomes part of what is in the
tag. -/
theorem readTag_of_sigil {c : Char} {more : List Char} {kind : TokenKind} {tag : Tag}
    (hclosing : d.closing.toList = c :: more) (hc : (c, kind) ∈ sigils)
    (h : readTag d (d.closing.toList ++ rest) = .ok tag) :
    tag.kind = kind ∧ ∃ inner, more ++ rest = inner ++ closerOf d [c] ++ tag.rest ∧
      tag.value = Text.trim inner := by
  obtain ⟨sigil, inner, hsigil, hbody, -, hvalue, -, -⟩ := readTag_eq_ok_iff.1 h
  rw [hclosing, List.cons_append] at hsigil hbody
  obtain ⟨rfl, hkind⟩ := Prod.mk.inj
    ((sigilOf_eq_iff.2 (.char hc)).symm.trans (sigilOf_eq_iff.2 hsigil))
  exact ⟨hkind.symm, inner, hbody, hvalue⟩

example : readTag ⟨"<%", "%>"⟩ "%>a<%b%>".toList =
    .ok ⟨.pragma, ">a<%b".toList, "%>a<%b%>".toList, []⟩ := rfl

/-- **A source with a tag without content is refused**, at the opening delimiter of this tag and
whatever follows, if there is a blank between the delimiters or if the closing delimiter does not
begin with a sigil. -/
theorem tokenize_of_blanks {source : String} {name : Value} {d₀ : Delimiters} {front : List Char}
    (hd₀ : d₀.IsPlain)
    (hfinds : Finds d₀ .start source.toList front d (blanks ++ d.closing.toList ++ rest))
    (hblanks : ∀ c ∈ blanks, Text.isBlank c = true)
    (hsigil : blanks ≠ [] ∨ ∀ c ∈ d.closing.toList.head?, ∀ kind, (c, kind) ∉ sigils) :
    source.toList = front ++ d.opening.toList ++ (blanks ++ d.closing.toList ++ rest) ∧
      ∃ e, tokenize source name d₀ = .error e ∧ e.cause = .emptyTag ∧ e.cause.code = .emptyTag ∧
        e.line = some ((1 + front.count '\n' : Nat) : Int) ∧
        e.column = some ((Text.lastLine front).length : Int) ∧
        e.name = name ∧ e.source = some source := by
  have hread : readTag d (blanks ++ d.closing.toList ++ rest) = .error .emptyTag :=
    readTag_of_blanks (hfinds.isPlain hd₀).closing hblanks hsigil
  have hscan := hfinds.scan_eq_error (.unread hread)
  rw [Position.advance_start] at hscan
  refine ⟨hfinds.eq_append, _, by simp only [tokenize, hscan]; rfl, rfl, rfl, rfl, rfl, rfl, rfl⟩

/-- A tag without content behind a change of the delimiters, on the second line. -/
theorem tokenize_of_blanks_change :
    ∃ e, tokenize "\x7b\x7b=<% %>=\x7d\x7d\na<% %>b<%c%>" .null .usual = .error e ∧
      e.cause = .emptyTag ∧ e.line = some 2 ∧ e.column = some 1 := by
  have hfound : Text.cut? Delimiters.usual.opening.toList
      "\x7b\x7b=<% %>=\x7d\x7d\na<% %>b<%c%>".toList =
        some ([], "=<% %>=\x7d\x7d\na<% %>b<%c%>".toList) := by decide +kernel
  have hread : readTag .usual "=<% %>=\x7d\x7d\na<% %>b<%c%>".toList =
      .ok ⟨.delimiterChange, "<% %>".toList, "=<% %>=\x7d\x7d".toList,
        "\na<% %>b<%c%>".toList⟩ := rfl
  have hfinds : Finds .usual .start "\x7b\x7b=<% %>=\x7d\x7d\na<% %>b<%c%>".toList
      "\x7b\x7b=<% %>=\x7d\x7d\na".toList ⟨"<%", "%>"⟩
      ([' '] ++ "%>".toList ++ "b<%c%>".toList) :=
    .later hfound hread rfl (.here (by decide +kernel))
  obtain ⟨-, e, he, hcause, -, hline, hcolumn, -, -⟩ :=
    tokenize_of_blanks Delimiters.isPlain_usual hfinds (List.forall_mem_singleton.2 rfl)
      (.inl (by simp))
  exact ⟨e, he, hcause, hline.trans (by decide +kernel), hcolumn.trans (by decide +kernel)⟩

end Mustache
