import Gauge.Proofs.Token.Scanning
import Gauge.Token.Stream

/-! # What a stream hands out

A stream hands out what a scan of the whole text gives, one item at a time. So it ends without an error
exactly on the texts that consist of lexemes and blanks.
-/
namespace Gauge

def Scan.items (scan : Scan) : List (Except SyntaxError Located) :=
  scan.tokens.map .ok ++ scan.failure.toList.map .error

theorem Scan.items_after (us : List Located) (scan : Scan) :
    (scan.after us).items = us.map .ok ++ scan.items := by
  simp [Scan.items, Scan.after]

theorem Scan.items_eq_map_ok_iff {scan : Scan} {ts : List Located} :
    scan.items = ts.map .ok ↔ scan = ⟨ts, none⟩ := by
  obtain ⟨us, failure⟩ := scan
  constructor
  · intro h
    cases failure with
    | some e =>
      have hmem : Except.error e ∈ ts.map (Except.ok (ε := SyntaxError)) := by
        rw [← h]
        simp [Scan.items]
      simp at hmem
    | none =>
      rw [show Scan.items ⟨us, none⟩ = us.map .ok from List.append_nil _] at h
      rw [(List.map_inj_right fun _ _ => Except.ok.inj).mp h]
  · intro h
    cases h
    simp [Scan.items]

theorem Scan.map_ok_prefix_items_iff {scan : Scan} {ts : List Located} :
    ts.map .ok <+: scan.items ↔ ts <+: scan.tokens := by
  obtain ⟨us, failure⟩ := scan
  induction ts generalizing us with
  | nil => simp
  | cons t ts ih =>
    cases us with
    | nil => cases failure <;> simp [Scan.items]
    | cons u us =>
      have hitems : Scan.items ⟨u :: us, failure⟩ = .ok u :: Scan.items ⟨us, failure⟩ := rfl
      rw [hitems, List.map_cons, List.cons_prefix_cons, ih us, List.cons_prefix_cons, Except.ok.injEq]

namespace TokenStream

def remaining (s : TokenStream) : List (Except SyntaxError Located) :=
  s.pending.map .ok ++ if s.finished then [] else (s.scanner.scan s.rest).items

theorem remaining_ended (scanner : Scanner) (ts : List Located) :
    (ended scanner ts).remaining = ts.map .ok := by
  simp [remaining, ended]

theorem pull_spec (scanner : Scanner) (rest : List Char) :
    (pull scanner rest).1 = (scanner.scan rest).items.head? ∧
      (pull scanner rest).2.remaining = (scanner.scan rest).items.tail := by
  induction rest generalizing scanner with
  | nil =>
    rw [pull, Scanner.scan]
    cases scanner.runTokens with
    | error e => exact ⟨rfl, remaining_ended scanner []⟩
    | ok ts =>
      cases ts with
      | nil => exact ⟨rfl, remaining_ended scanner []⟩
      | cons t ts => exact ⟨rfl, (remaining_ended scanner ts).trans (by simp [Scan.items])⟩
  | cons c rest ih =>
    rw [pull, Scanner.scan]
    cases scanner.step c with
    | error e => exact ⟨rfl, remaining_ended scanner []⟩
    | ok result =>
      obtain ⟨ts, next⟩ := result
      cases ts with
      | nil =>
        rw [Scan.items_after]
        exact ih next
      | cons t ts =>
        rw [Scan.items_after]
        exact ⟨rfl, rfl⟩

/-- A call hands out the first item that is left. -/
theorem next?_spec (s : TokenStream) :
    s.next?.1 = s.remaining.head? ∧ s.next?.2.remaining = s.remaining.tail := by
  obtain ⟨scanner, rest, pending, finished⟩ := s
  cases pending with
  | cons t ts => exact ⟨rfl, rfl⟩
  | nil =>
    cases finished with
    | true => exact ⟨rfl, rfl⟩
    | false => exact pull_spec scanner rest

theorem take_eq (s : TokenStream) (n : Nat) : s.take n = s.remaining.take n := by
  induction n generalizing s with
  | zero => rfl
  | succ n ih =>
    obtain ⟨hhead, htail⟩ := s.next?_spec
    rcases hnext : s.next? with ⟨item, next⟩
    rw [hnext] at hhead htail
    simp only [take, hnext]
    cases hitems : s.remaining with
    | nil =>
      rw [hitems] at hhead
      subst hhead
      rfl
    | cons first items =>
      rw [hitems] at hhead htail
      subst hhead
      exact congrArg (first :: ·) ((ih next).trans (congrArg (List.take n) htail))

theorem take_ofString (source : String) (n : Nat) :
    (ofString source).take n = (Scan.ofString source).items.take n := take_eq _ n

/-- The stream hands out the tokens `ts` and then nothing. -/
def HandsOut (s : TokenStream) (ts : List Located) : Prop := ∀ n, s.take n = (ts.map .ok).take n

theorem handsOut_ofString_iff {source : String} {ts : List Located} :
    (ofString source).HandsOut ts ↔ Scan.ofString source = ⟨ts, none⟩ := by
  rw [← Scan.items_eq_map_ok_iff]
  constructor
  · intro h
    let items := (Scan.ofString source).items
    -- Enough calls hand out both lists to their ends.
    have htake : items.take (max items.length ts.length) =
        (ts.map Except.ok).take (max items.length ts.length) := by rw [← take_ofString, h]
    rwa [List.take_of_length_le (Nat.le_max_left ..),
      List.take_of_length_le (by rw [List.length_map]; exact Nat.le_max_right ..)] at htake
  · intro h n
    rw [take_ofString, h]

def Begins (s : TokenStream) (ts : List Located) : Prop := s.take ts.length = ts.map .ok

/-- The tokens handed out so far are those at the front of the scan, whatever ends it. -/
theorem begins_ofString_iff {source : String} {ts : List Located} :
    (ofString source).Begins ts ↔ ts <+: (Scan.ofString source).tokens := by
  rw [Begins, take_ofString, ← Scan.map_ok_prefix_items_iff, List.prefix_iff_eq_take, List.length_map,
    eq_comm]

/-- The stream ends without an error exactly if the text is made of lexemes and blanks, and then its
tokens are the lexemes. These stand in the text where their offsets say, each further on than the last,
and nothing but blanks stands before, between and after them. -/
theorem handsOut_iff_lexes (source : String) :
    (∀ ts, (ofString source).HandsOut ts ↔
      ∃ ls, Lexes false 0 source.toList ls ∧ ls.map Lexeme.located = ts) ∧
    ∀ ls, Lexes false 0 source.toList ls →
      ls.Pairwise (fun l m => l.offset < m.offset) ∧
      (∀ l ∈ ls, ∃ before after, source.toList = before ++ l.text ++ after ∧
        Text.byteSize before = l.offset) ∧
      ∃ gaps tail, gaps.length = ls.length ∧ (∀ gap ∈ gaps, ∀ c ∈ gap, Text.isBlank c = true) ∧
        (∀ c ∈ tail, Text.isBlank c = true) ∧
        source.toList = (List.zipWith (fun gap l => gap ++ l.text) gaps ls).flatten ++ tail := by
  refine ⟨fun ts => ?_, fun ls hls => ⟨hls.pairwise_offset, ?_, hls.exists_gaps⟩⟩
  · rw [handsOut_ofString_iff]
    exact Scanner.scan_eq_iff Scanner.ready_start source.toList ts
  · intro l hl
    obtain ⟨before, after, heq, hoffset⟩ := hls.exists_before l hl
    exact ⟨before, after, heq, by omega⟩

/-- Signs after a name of two bytes, a number, a closing parenthesis and operators. -/
theorem handsOut_iff_lexes_signs : ∃ ls, Lexes false 0 "(É-1 +x)- -2>=-y".toList ls ∧
    ls.map Lexeme.located = [⟨.openParen, 0⟩, ⟨.identifier "é", 1⟩, ⟨.operator (.binary .subtract), 3⟩,
      ⟨.number 1, 4⟩, ⟨.operator (.binary .add), 6⟩, ⟨.identifier "x", 7⟩, ⟨.closeParen, 8⟩,
      ⟨.operator (.binary .subtract), 9⟩, ⟨.operator (.unary .minus), 11⟩, ⟨.number 2, 12⟩,
      ⟨.operator (.binary .greaterEqual), 13⟩, ⟨.operator (.unary .minus), 15⟩, ⟨.identifier "y", 16⟩] ∧
    ls.Pairwise fun l m => l.offset < m.offset := by
  have hscan := handsOut_ofString_iff.mpr (show Scan.ofString "(É-1 +x)- -2>=-y" = ⟨_, none⟩ from rfl)
  obtain ⟨ls, hls, hmap⟩ := ((handsOut_iff_lexes _).1 _).mp hscan
  exact ⟨ls, hls, hmap, ((handsOut_iff_lexes _).2 ls hls).1⟩

end TokenStream
end Gauge
