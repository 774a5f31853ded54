import Gauge.Proofs.Token.Runs
import Gauge.Proofs.Token.Stream

/-! # Streams that end in an error

A stream is asked again and again. If a text is wrong somewhere, its stream hands out the tokens of the text
before the run in which it is, then the error, and then nothing any more, however often it is asked.
-/
namespace Gauge.TokenStream

def answer (s : TokenStream) : Nat → Option (Except SyntaxError Located)
  | 0 => s.next?.1
  | n + 1 => s.next?.2.answer n

theorem answer_eq (s : TokenStream) (n : Nat) : s.answer n = s.remaining[n]? := by
  induction n generalizing s with
  | zero =>
    obtain ⟨hhead, -⟩ := s.next?_spec
    rw [answer, hhead, List.head?_eq_getElem?]
  | succ n ih =>
    obtain ⟨-, htail⟩ := s.next?_spec
    rw [answer, ih, htail, List.getElem?_tail]

theorem answer_ofString (source : String) (n : Nat) :
    (ofString source).answer n = (Scan.ofString source).items[n]? := answer_eq _ n

theorem failure_of_answer {source : String} {n : Nat} {e : SyntaxError}
    (h : (ofString source).answer n = some (.error e)) : (Scan.ofString source).failure = some e := by
  rw [answer_ofString] at h
  have hmem := List.mem_of_getElem? h
  simpa [Scan.items] using hmem

theorem items_of_failure {scan : Scan} {e : SyntaxError} (h : scan.failure = some e) :
    scan.items = scan.tokens.map .ok ++ [.error e] := by
  rw [Scan.items, h]
  rfl

theorem handsOut_of_lexesTo {cs : List Char} {ts : List Located} (h : LexesTo false 0 cs ts) :
    (ofString (String.ofList cs)).HandsOut ts := by
  rw [handsOut_ofString_iff, Scan.ofString_eq_iff, String.toList_ofList]
  exact h

structure WrongRun (source : String) (e : SyntaxError) (front run rest : List Char) : Prop where
  text_eq : source.toList = front ++ run ++ rest
  runs : Runs front (run ++ rest)
  breaks : Breaks 0 front run rest e

theorem WrongRun.front_eq {source : String} {e : SyntaxError} {front run rest front' run' rest' : List Char}
    (h : WrongRun source e front run rest) (h' : WrongRun source e front' run' rest') :
    front = front' := by
  have heq : front ++ run ++ rest = front' ++ run' ++ rest' := h.text_eq.symm.trans h'.text_eq
  have hle := (h.breaks.front_prefix h.runs h'.breaks h'.runs heq).length_le
  have hge := h'.breaks.front_prefix h'.runs h.breaks h.runs heq.symm
  exact hge.eq_of_length_le hle

/-- If a stream ever hands out an error, it hands out finitely many tokens before, and nothing after it. The
text is wrong in one run, and the tokens are all those of the text before this run. -/
theorem tokens_then_error {source : String} {n : Nat} {e : SyntaxError}
    (h : (ofString source).answer n = some (.error e)) :
    ∃ ts, (∀ k, (ofString source).answer k = (ts.map Except.ok ++ [.error e])[k]?) ∧
      (∃ front run rest, WrongRun source e front run rest) ∧
      ∀ front run rest, WrongRun source e front run rest →
        (ofString (String.ofList front)).HandsOut ts := by
  have hfailure := failure_of_answer h
  obtain ⟨front, run, rest, heq, hruns, hbreaks, hlexes⟩ := Scan.exists_breaks hfailure
  have hwrong : WrongRun source e front run rest := ⟨heq, hruns, hbreaks⟩
  refine ⟨(Scan.ofString source).tokens, ?_, ⟨front, run, rest, hwrong⟩, ?_⟩
  · intro k
    rw [answer_ofString, items_of_failure hfailure]
  · intro front' run' rest' hwrong'
    rw [← hwrong.front_eq hwrong']
    exact handsOut_of_lexesTo hlexes

/-- In `é +(=1` the sign and the parenthesis stand in the row that ends wrong, and are not handed out. -/
theorem tokens_then_error_row : (ofString "é +(=1").answer 1 = some (.error (.unknownOperator "=" 5)) ∧
    ∃ ts, (∀ k, (ofString "é +(=1").answer k =
        (ts.map Except.ok ++ [.error (.unknownOperator "=" 5)])[k]?) ∧
      (∃ front run rest, WrongRun "é +(=1" (.unknownOperator "=" 5) front run rest) ∧
      ∀ front run rest, WrongRun "é +(=1" (.unknownOperator "=" 5) front run rest →
        (ofString (String.ofList front)).HandsOut ts := by
  have h : (ofString "é +(=1").answer 1 = some (.error (.unknownOperator "=" 5)) := rfl
  exact ⟨h, tokens_then_error h⟩

end Gauge.TokenStream
