import EndpointCatalog.Text.Code
import EndpointCatalog.Text.PrintableTable

namespace EndpointCatalog.Text

def printableSet : CodeRanges := .ofText PrintableTable.printable

-- The blank is the only separator that is shown as it is.
def isPrintable (c : Char) : Bool :=
  if c.toNat < 128 then decide (' ' ≤ c ∧ c ≤ '~') else printableSet.contains c

def quoteMark (text : Codes) : Char :=
  if text.contains (.char '\x27') && !text.contains (.char '"') then '"' else '\x27'

def quoteChar (mark c : Char) : List Char :=
  if c = mark || c = '\\' then ['\\', c]
  else if c = '\n' then ['\\', 'n']
  else if c = '\r' then ['\\', 'r']
  else if c = '\t' then ['\\', 't']
  else if isPrintable c then [c]
  else if c.toNat < 0x100 then '\\' :: 'x' :: hexDigits 2 c.toNat
  else if c.toNat < 0x10000 then '\\' :: 'u' :: hexDigits 4 c.toNat
  else '\\' :: 'U' :: hexDigits 8 c.toNat

def quoteCode (mark : Char) : Code → List Char
  | .char c => quoteChar mark c
  | .half unit => '\\' :: 'u' :: hexDigits 4 (0xd800 + unit)

def quoted (text : Codes) : String :=
  let mark := quoteMark text
  String.ofList (mark :: text.flatMap (quoteCode mark) ++ [mark])

end EndpointCatalog.Text
