import EndpointCatalog.Files.Tree
import EndpointCatalog.Json.Reader
import EndpointCatalog.Text.Encoding

namespace EndpointCatalog.Json

open Files (Path Tree FileError)
open Text (DecodeError)

inductive LoadError where
  | file (e : FileError)
  | encoding (e : DecodeError)
  | text (e : ReadError)
  deriving DecidableEq, Repr

def LoadError.message : LoadError → String
  | .file e => e.message
  | .encoding e => e.message
  | .text e => e.message

-- Places in a text are counted after all line ends are line feeds.
def ofBytes (bytes : List UInt8) : Except LoadError Json :=
  match Text.decodeUtf8 bytes with
  | .error e => .error (.encoding (.utf8 e))
  | .ok text => (read ((Text.unifyLineEnds text).map .char)).mapError .text

def ofContent (content : List UInt8) : Except LoadError Json :=
  match Text.decode content with
  | .error e => .error (.encoding e)
  | .ok text => (read text).mapError .text

def load (tree : Tree) (path : Path) : Except LoadError Json :=
  match tree.read path with
  | .error e => .error (.file e)
  | .ok bytes => ofBytes bytes

end EndpointCatalog.Json
