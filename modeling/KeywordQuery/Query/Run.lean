import KeywordQuery.Query.Parser

/-!
# Runs of the readers along a cursor

The readers of the grammar, call by call: each of them looks at the token at the cursor, advances
the cursor past what it takes, and goes on with other readers.  It ends with a query, or with the
fault at the cursor, which all the readers that wait for it pass on.

* `Scan` — a cursor in use, with the number of its advances;
* `Query.Reader` — the readers, and the loops of chains;
* `Query.Runs` — where a reader goes from a scan, and with what result.
-/

namespace KeywordQuery

/-- A cursor in use, with the number of times that it was advanced. -/
structure Scan where
  cursor : Cursor
  advances : Nat
  deriving Repr, DecidableEq

namespace Scan

/-- The scan of a text before its first advance. -/
def start (text : String) : Scan := ⟨.start text, 0⟩

def advance (scan : Scan) : Scan := ⟨scan.cursor.advance, scan.advances + 1⟩

/-- What the grammar takes the token at the cursor for; none at the end of the text. -/
def token? (scan : Scan) : Option Token := scan.cursor.current.map Token.ofText

/-- The fault of a reader that wants something else at the cursor. -/
def fault (scan : Scan) (wanted : Wanted) : ParseFault :=
  ⟨wanted, scan.cursor.current, scan.cursor.position⟩

end Scan

namespace Query

/-- The readers of the grammar. -/
inductive Reader where
  /-- A disjunction with nothing after it. -/
  | whole
  /-- A chain of operands: a disjunction or a conjunction. -/
  | chain (op : Connective)
  /-- The loop of a chain, with what was read of it so far. -/
  | others (op : Connective) (left : Query)
  | negation
  | primary
  deriving Repr, DecidableEq

/-- The reader of the operands of a chain. -/
def Reader.ofOperand : Connective → Reader
  | .or => .chain .and
  | .and => .negation

/-- The reader, from the scan `start` on, ends with the result, at the scan `stop`. -/
inductive Runs (policy : MatchPolicy) : Reader → Scan → Except ParseFault Query → Scan → Prop where
  | whole {start stop : Scan} {query : Query}
      (inner : Runs policy (.chain .or) start (.ok query) stop) (ended : stop.token? = none) :
      Runs policy .whole start (.ok query) stop
  | wholeExtra {start stop : Scan} {query : Query}
      (inner : Runs policy (.chain .or) start (.ok query) stop) (extra : stop.token? ≠ none) :
      Runs policy .whole start (.error (stop.fault .finish)) stop
  | wholeFault {start stop : Scan} {fault : ParseFault}
      (inner : Runs policy (.chain .or) start (.error fault) stop) :
      Runs policy .whole start (.error fault) stop
  | chain {op : Connective} {start middle stop : Scan} {left : Query}
      {result : Except ParseFault Query}
      (first : Runs policy (.ofOperand op) start (.ok left) middle)
      (others : Runs policy (.others op left) middle result stop) :
      Runs policy (.chain op) start result stop
  | chainFault {op : Connective} {start stop : Scan} {fault : ParseFault}
      (first : Runs policy (.ofOperand op) start (.error fault) stop) :
      Runs policy (.chain op) start (.error fault) stop
  | others {op : Connective} {start middle stop : Scan} {left right : Query}
      {result : Except ParseFault Query} (next : start.token? = some op.token)
      (operand : Runs policy (.ofOperand op) start.advance (.ok right) middle)
      (others : Runs policy (.others op (.join op left right)) middle result stop) :
      Runs policy (.others op left) start result stop
  | othersFault {op : Connective} {start stop : Scan} {left : Query} {fault : ParseFault}
      (next : start.token? = some op.token)
      (operand : Runs policy (.ofOperand op) start.advance (.error fault) stop) :
      Runs policy (.others op left) start (.error fault) stop
  | othersEnd {op : Connective} {scan : Scan} {left : Query}
      (ended : scan.token? ≠ some op.token) : Runs policy (.others op left) scan (.ok left) scan
  | not {start stop : Scan} {child : Query} (next : start.token? = some .not)
      (inner : Runs policy .negation start.advance (.ok child) stop) :
      Runs policy .negation start (.ok (.not child)) stop
  | notFault {start stop : Scan} {fault : ParseFault} (next : start.token? = some .not)
      (inner : Runs policy .negation start.advance (.error fault) stop) :
      Runs policy .negation start (.error fault) stop
  | positive {start stop : Scan} {result : Except ParseFault Query}
      (other : start.token? ≠ some .not) (inner : Runs policy .primary start result stop) :
      Runs policy .negation start result stop
  | group {start stop : Scan} {query : Query} (opened : start.token? = some .lparen)
      (inner : Runs policy (.chain .or) start.advance (.ok query) stop)
      (closed : stop.token? = some .rparen) :
      Runs policy .primary start (.ok query) stop.advance
  | groupOpen {start stop : Scan} {query : Query} (opened : start.token? = some .lparen)
      (inner : Runs policy (.chain .or) start.advance (.ok query) stop)
      (unclosed : stop.token? ≠ some .rparen) :
      Runs policy .primary start (.error (stop.fault .close)) stop
  | groupFault {start stop : Scan} {fault : ParseFault} (opened : start.token? = some .lparen)
      (inner : Runs policy (.chain .or) start.advance (.error fault) stop) :
      Runs policy .primary start (.error fault) stop
  | word {start : Scan} {token : Token} (next : start.token? = some token)
      (term : token ∉ [.lparen, .rparen, .or, .and]) :
      Runs policy .primary start (.ok (.word token.text policy)) start.advance
  | refused {scan : Scan} (noTerm : ∀ token ∈ scan.token?, token ∈ [.rparen, .or, .and]) :
      Runs policy .primary scan (.error (scan.fault .term)) scan

end Query

end KeywordQuery
