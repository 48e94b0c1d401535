import TextLocation.Scanner.Basic

namespace TextLocation

/-- Passes the first of the literals that comes next in the text. Gives its span and the scanner
behind it. -/
def Scanner.accept (scanner : Scanner) : List String → Option (Span × Scanner)
  | [] => none
  | literal :: literals =>
    match scanner.peekRun literal.length with
    | .ok run =>
      if run.eqString literal then
        let next := scanner.skipN literal.length
        some (⟨scanner.source, scanner.offset, next.offset⟩, next)
      else scanner.accept literals
    | .error _ => scanner.accept literals

end TextLocation
