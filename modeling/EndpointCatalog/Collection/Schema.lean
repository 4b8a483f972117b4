import EndpointCatalog.Schema.Check

namespace EndpointCatalog.Collection

namespace SchemaPart

def text : Schema := .all [.ofKind [.string]]

def nodes : Schema :=
  .all [.ofKind [.array],
    .items (.all [.anyOf [.reference "#/definitions/item", .reference "#/definitions/item-group"]])]

def info : Schema :=
  .all [.ofKind [.object], .required ["name", "schema"],
    .members [("name", text), ("_postman_id", text), ("schema", text),
      ("_exporter_id", .all [.ofKind [.string, .integer]])]]

def group : Schema :=
  .all [.ofKind [.object], .required ["item"], .members [("name", text), ("item", nodes)]]

def item : Schema :=
  .all [.ofKind [.object], .required ["request"],
    .members [("id", text), ("name", text), ("request", .reference "#/definitions/request")]]

def verbs : List String :=
  ["GET", "PUT", "POST", "PATCH", "DELETE", "COPY", "HEAD", "OPTIONS", "LINK", "UNLINK", "PURGE",
    "LOCK", "UNLOCK", "PROPFIND", "VIEW"]

def modes : List String := ["raw", "urlencoded", "formdata", "file", "graphql"]

def textAmong (texts : List String) : Schema :=
  .all [.ofKind [.string], .among (texts.map fun text : String => .str text)]

def request : Schema :=
  .all [.anyOf [
    .all [.ofKind [.object],
      .members [("url", .all [.ofKind [.string, .object]]), ("method", textAmong verbs),
        ("body", .reference "#/definitions/body")]],
    text]]

def body : Schema :=
  .all [.anyOf [
    .all [.ofKind [.object],
      .members [("mode", textAmong modes), ("raw", text), ("options", .all [.ofKind [.object]])]],
    .all [.ofKind [.null]]]]

end SchemaPart

def schema : SchemaDocument where
  root := .all [.ofKind [.object], .required ["info", "item"],
    .members [("info", .reference "#/definitions/info"), ("item", SchemaPart.nodes)]]
  targets :=
    [("#/definitions/info", SchemaPart.info), ("#/definitions/item", SchemaPart.item),
      ("#/definitions/item-group", SchemaPart.group), ("#/definitions/request", SchemaPart.request),
      ("#/definitions/body", SchemaPart.body)]

end EndpointCatalog.Collection
