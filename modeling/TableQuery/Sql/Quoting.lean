namespace TableQuery.Sql

/-- `previous` is the last character looked at; it stays a backslash along a run of quotes. -/
def escapeQuotes (quote : Char) (previous : Char) : List Char → List Char
  | [] => []
  | c :: rest =>
    if c ≠ quote then c :: escapeQuotes quote c rest
    else if previous = '\\' then c :: escapeQuotes quote previous rest
    else
      match rest with
      | [] => [c, c]
      | d :: after =>
        if d = quote then c :: d :: escapeQuotes quote c after
        else c :: c :: escapeQuotes quote c (d :: after)

def quoteChars (quote : Char) (cs : List Char) : List Char :=
  quote :: escapeQuotes quote '\x00' cs ++ [quote]

def doubleBackslashes (cs : List Char) : List Char :=
  cs.flatMap fun c => if c = '\\' then ['\\', '\\'] else [c]

end TableQuery.Sql
