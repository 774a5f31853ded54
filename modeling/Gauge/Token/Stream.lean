import Gauge.Token.Scan

/-! # Token streams

A stream hands out the tokens of a text one at a time and reads no further than it must. After an
error, or after the last token, it has nothing more to give.
-/
namespace Gauge

/-- The scanner, the text that it has not read, the tokens read and not yet handed out, and whether
the end or an error was reached. -/
structure TokenStream where
  scanner : Scanner
  rest : List Char
  pending : List Located
  finished : Bool

namespace TokenStream

def ofString (source : String) : TokenStream := ⟨{}, source.toList, [], false⟩

def ended (scanner : Scanner) (pending : List Located) : TokenStream := ⟨scanner, [], pending, true⟩

def pull (scanner : Scanner) : List Char → Option (Except SyntaxError Located) × TokenStream
  | [] =>
    match scanner.runTokens with
    | .ok [] => (none, ended scanner [])
    | .ok (token :: tokens) => (some (.ok token), ended scanner tokens)
    | .error e => (some (.error e), ended scanner [])
  | c :: rest =>
    match scanner.step c with
    | .ok ([], next) => pull next rest
    | .ok (token :: tokens, next) => (some (.ok token), ⟨next, rest, tokens, false⟩)
    | .error e => (some (.error e), ended scanner [])

def next? (s : TokenStream) : Option (Except SyntaxError Located) × TokenStream :=
  match s.pending with
  | token :: tokens => (some (.ok token), { s with pending := tokens })
  | [] => if s.finished then (none, s) else pull s.scanner s.rest

/-- What the first `n` calls of `next?` give, up to the first that gives nothing. -/
def take (s : TokenStream) : Nat → List (Except SyntaxError Located)
  | 0 => []
  | n + 1 =>
    match s.next? with
    | (some item, rest) => item :: rest.take n
    | (none, _) => []

end TokenStream
end Gauge
