import ScriptDeps.Grammar.Symbol

namespace ScriptDeps.Grammar

/-! # What the parser can do, and how it builds nodes

The cells of the parse table that are not a plain shift, and the shapes of the nodes that the
grammar's rules build.
-/

/-- One thing the parser can do at a token. -/
inductive Action where
  /-- Take the token and go to the state. -/
  | shift (target : Nat)
  /-- Take the token as one more element of a repetition. A repetition is built from its left end,
  so this is never done, but it shows that the token can stand here. -/
  | again (target : Nat)
  /-- Take the token as a comment. -/
  | extra
  /-- Build a node of the symbol from that many children. -/
  | reduce (symbol count : Nat) (weight : Int) (shape : Nat)
  /-- The source is complete. -/
  | accept
  /-- Pass over the token in search of one where parsing can go on. -/
  | recover
deriving DecidableEq, Repr, Inhabited

/-- How a rule of the grammar builds its node: the children that it shows in another way than their
symbol does, and the roles that it gives to its children. -/
structure Shape where
  renamed : List (Nat × SymbolInfo)
  roles : List (Nat × String)
deriving Repr, Inhabited

/-- The shapes by number; the first is the plain one. -/
def shapes : Array Shape :=
  #[
    ⟨[], []⟩,
    ⟨[(0, .node "identifier")], []⟩,
    ⟨[], [(0, "decorator")]⟩,
    ⟨[], [(1, "declaration")]⟩,
    ⟨[(0, .node "property_identifier")], []⟩,
    ⟨[(0, .node "identifier")], [(0, "name")]⟩,
    ⟨[], [(0, "name")]⟩,
    ⟨[], [(1, "body")]⟩,
    ⟨[], [(1, "constructor")]⟩,
    ⟨[], [(0, "operator"), (1, "argument")]⟩,
    ⟨[], [(0, "function"), (1, "arguments")]⟩,
    ⟨[], [(0, "argument"), (1, "operator")]⟩,
    ⟨[], [(0, "open_tag"), (1, "close_tag")]⟩,
    ⟨[], []⟩,
    ⟨[], [(2, "declaration")]⟩,
    ⟨[(0, .node "statement_identifier")], [(0, "label"), (2, "body")]⟩,
    ⟨[(0, .node "identifier")], [(0, "left"), (2, "right")]⟩,
    ⟨[(0, .node "identifier")], [(0, "parameter"), (2, "body")]⟩,
    ⟨[(1, .node "shorthand_property_identifier")], []⟩,
    ⟨[(1, .node "shorthand_property_identifier_pattern")], []⟩,
    ⟨[(1, .node "identifier")], []⟩,
    ⟨[], [(1, "source")]⟩,
    ⟨[], [(1, "object"), (2, "body")]⟩,
    ⟨[(0, .node "identifier")], [(0, "name")]⟩,
    ⟨[], [(0, "name")]⟩,
    ⟨[], [(0, "kind")]⟩,
    ⟨[], [(1, "condition"), (2, "consequence")]⟩,
    ⟨[], [(1, "value"), (2, "body")]⟩,
    ⟨[], [(2, "body")]⟩,
    ⟨[], [(1, "condition"), (2, "body")]⟩,
    ⟨[], [(1, "body"), (2, "handler")]⟩,
    ⟨[], [(1, "body"), (2, "finalizer")]⟩,
    ⟨[(1, .node "statement_identifier")], [(1, "label")]⟩,
    ⟨[], [(1, "name")]⟩,
    ⟨[], [(0, "attribute")]⟩,
    ⟨[], [(0, "member")]⟩,
    ⟨[], [(0, "property")]⟩,
    ⟨[], [(1, "name"), (2, "body")]⟩,
    ⟨[], [(2, "body")]⟩,
    ⟨[], [(1, "parameters"), (2, "body")]⟩,
    ⟨[], [(1, "constructor"), (2, "arguments")]⟩,
    ⟨[], [(1, "pattern")]⟩,
    ⟨[], [(0, "left"), (2, "right")]⟩,
    ⟨[], [(0, "parameter"), (2, "body")]⟩,
    ⟨[], [(0, "left"), (1, "operator"), (2, "right")]⟩,
    ⟨[(2, .node "property_identifier")], [(0, "object"), (2, "property")]⟩,
    ⟨[], [(0, "object"), (2, "property")]⟩,
    ⟨[(2, .node "property_identifier")], [(0, "object"), (1, "optional_chain"), (2, "property")]⟩,
    ⟨[], [(0, "object"), (1, "optional_chain"), (2, "property")]⟩,
    ⟨[], [(0, "function"), (1, "optional_chain"), (2, "arguments")]⟩,
    ⟨[], [(0, "open_tag"), (2, "close_tag")]⟩,
    ⟨[], [(0, "parameters"), (2, "body")]⟩,
    ⟨[], [(2, "declaration")]⟩,
    ⟨[], [(2, "body")]⟩,
    ⟨[], []⟩,
    ⟨[], [(2, "value")]⟩,
    ⟨[(0, .node "shorthand_property_identifier_pattern")], [(0, "left"), (2, "right")]⟩,
    ⟨[], [(0, "key"), (2, "value")]⟩,
    ⟨[], [(0, "name"), (1, "parameters"), (2, "body")]⟩,
    ⟨[], [(1, "value")]⟩,
    ⟨[], [(0, "kind"), (1, "kind")]⟩,
    ⟨[], [(1, "condition"), (2, "consequence"), (3, "alternative")]⟩,
    ⟨[], [(3, "body")]⟩,
    ⟨[], [(1, "body"), (3, "condition")]⟩,
    ⟨[], [(1, "body"), (2, "handler"), (3, "finalizer")]⟩,
    ⟨[], [(1, "name")]⟩,
    ⟨[], []⟩,
    ⟨[], [(1, "property")]⟩,
    ⟨[], [(0, "property")]⟩,
    ⟨[], [(1, "property")]⟩,
    ⟨[], []⟩,
    ⟨[], []⟩,
    ⟨[], [(1, "name"), (3, "body")]⟩,
    ⟨[(1, .node "identifier")], [(1, "parameter"), (3, "body")]⟩,
    ⟨[], [(2, "parameters"), (3, "body")]⟩,
    ⟨[], [(1, "parameter"), (3, "body")]⟩,
    ⟨[], [(1, "parameters"), (3, "body")]⟩,
    ⟨[], [(1, "name"), (2, "parameters"), (3, "body")]⟩,
    ⟨[], [(1, "pattern"), (3, "flags")]⟩,
    ⟨[], [(0, "object"), (2, "index")]⟩,
    ⟨[], [(3, "declaration")]⟩,
    ⟨[], [(2, "name"), (3, "body")]⟩,
    ⟨[], [(3, "body")]⟩,
    ⟨[], [(0, "name"), (2, "alias")]⟩,
    ⟨[], [(1, "name"), (2, "parameters"), (3, "body")]⟩,
    ⟨[], [(1, "property")]⟩,
    ⟨[], [(2, "property")]⟩,
    ⟨[], [(1, "property")]⟩,
    ⟨[], [(3, "parameters"), (4, "body")]⟩,
    ⟨[], [(2, "name"), (3, "parameters"), (4, "body")]⟩,
    ⟨[], [(0, "condition"), (2, "consequence"), (4, "alternative")]⟩,
    ⟨[], [(0, "object"), (1, "optional_chain"), (3, "index")]⟩,
    ⟨[], [(3, "value")]⟩,
    ⟨[], [(2, "name"), (4, "body")]⟩,
    ⟨[], [(2, "name"), (3, "parameters"), (4, "body")]⟩,
    ⟨[(1, .node "identifier")], [(1, "left"), (2, "operator"), (3, "right")]⟩,
    ⟨[], [(1, "left"), (2, "operator"), (3, "right")]⟩,
    ⟨[], [(2, "initializer"), (3, "condition"), (5, "body")]⟩,
    ⟨[], [(2, "property")]⟩,
    ⟨[], [(3, "name"), (4, "parameters"), (5, "body")]⟩,
    ⟨[], [(3, "name"), (4, "parameters"), (5, "body")]⟩,
    ⟨[], [(1, "value"), (3, "body")]⟩,
    ⟨[], [(1, "kind"), (2, "left"), (3, "operator"), (4, "right")]⟩,
    ⟨[(2, .node "identifier")], [(1, "kind"), (2, "left"), (3, "operator"), (4, "right")]⟩,
    ⟨[], [(2, "initializer"), (3, "condition"), (4, "increment"), (6, "body")]⟩,
    ⟨[], [(2, "initializer"), (3, "condition"), (6, "body")]⟩,
    ⟨[], [(2, "initializer"), (4, "condition"), (6, "body")]⟩,
    ⟨[], [(2, "parameter"), (4, "body")]⟩,
    ⟨[], [(4, "name"), (5, "parameters"), (6, "body")]⟩,
    ⟨[], [(1, "kind"), (2, "left"), (4, "operator"), (5, "right")]⟩,
    ⟨[(2, .node "identifier")], [(1, "kind"), (2, "left"), (4, "operator"), (5, "right")]⟩,
    ⟨[], [(1, "kind"), (2, "left"), (4, "operator"), (5, "right")]⟩,
    ⟨[(3, .node "identifier")], [(1, "kind"), (2, "kind"), (3, "left"), (4, "operator"), (5, "right")]⟩,
    ⟨[], [(1, "kind"), (2, "kind"), (3, "left"), (4, "operator"), (5, "right")]⟩,
    ⟨[], [(2, "initializer"), (3, "condition"), (5, "increment"), (7, "body")]⟩,
    ⟨[], [(2, "initializer"), (4, "condition"), (5, "increment"), (7, "body")]⟩,
    ⟨[], [(2, "initializer"), (4, "condition"), (7, "body")]⟩,
    ⟨[(3, .node "identifier")], [(1, "kind"), (2, "kind"), (3, "left"), (5, "operator"), (6, "right")]⟩,
    ⟨[], [(1, "kind"), (2, "kind"), (3, "left"), (5, "operator"), (6, "right")]⟩,
    ⟨[], [(2, "initializer"), (4, "condition"), (6, "increment"), (8, "body")]⟩]

/-- The cells of the parse table by number. -/
def cells : Array (List Action) :=
  #[
    [.recover],
    [.extra],
    [.reduce 134 0 0 0],
    [.reduce 134 1 0 0],
    [.reduce 180 1 0 1],
    [.reduce 211 1 0 1],
    [.reduce 141 1 0 0],
    [.reduce 180 1 0 1, .shift 15],
    [.reduce 180 1 0 1, .shift 26],
    [.reduce 180 1 0 1, .shift 27],
    [.reduce 180 1 0 1, .shift 34],
    [.reduce 180 1 0 1, .shift 35],
    [.reduce 180 1 0 1, .shift 36],
    [.reduce 180 1 0 1, .shift 37],
    [.reduce 171 1 0 0],
    [.reduce 181 1 0 0],
    [.reduce 180 1 0 1, .shift 183],
    [.reduce 180 1 0 0],
    [.reduce 211 1 0 0],
    [.accept],
    [.reduce 149 1 0 0],
    [.reduce 140 1 0 0],
    [.reduce 179 1 0 0],
    [.reduce 242 1 0 2],
    [.reduce 134 2 0 0],
    [.reduce 135 2 0 3],
    [.reduce 180 1 0 1, .reduce 239 1 0 4],
    [.reduce 239 1 0 4, .shift 66],
    [.reduce 247 1 0 0, .reduce 248 1 0 0],
    [.reduce 155 2 0 0],
    [.reduce 182 2 0 0],
    [.reduce 183 2 0 0],
    [.reduce 180 1 0 1, .reduce 239 1 0 4, .shift 15],
    [.reduce 180 1 0 1, .shift 281],
    [.reduce 180 1 0 1, .reduce 239 1 0 4, .shift 183],
    [.reduce 180 1 0 1, .shift 267],
    [.reduce 180 1 0 0, .reduce 239 1 0 0],
    [.reduce 239 1 0 0],
    [.reduce 180 1 0 0, .reduce 239 1 0 4],
    [.reduce 143 1 0 0],
    [.reduce 154 1 0 5],
    [.reduce 154 1 0 6],
    [.reduce 207 2 0 0],
    [.reduce 180 1 0 1, .reduce 234 1 (-1) 1],
    [.reduce 234 1 (-1) 1, .shift 934],
    [.reduce 180 1 0 1, .shift 1484],
    [.reduce 180 1 0 1, .shift 1395],
    [.reduce 180 1 0 1, .shift 1486],
    [.reduce 180 1 0 1, .shift 926],
    [.reduce 180 1 0 1, .shift 1489],
    [.reduce 180 1 0 1, .shift 927],
    [.reduce 180 1 0 1, .shift 1190],
    [.reduce 232 2 0 0],
    [.reduce 180 1 0 0, .reduce 234 1 (-1) 0],
    [.reduce 234 1 (-1) 0, .shift 958],
    [.reduce 234 1 (-1) 0],
    [.reduce 164 2 0 7],
    [.reduce 166 2 0 0],
    [.reduce 167 2 0 0],
    [.reduce 168 2 0 0],
    [.reduce 169 2 0 0],
    [.reduce 181 2 0 0],
    [.reduce 249 1 0 0, .reduce 250 1 0 0],
    [.reduce 186 2 0 0],
    [.reduce 187 2 0 0],
    [.reduce 190 2 (-1) 0],
    [.reduce 221 2 0 0],
    [.reduce 197 2 0 7],
    [.reduce 206 2 0 8],
    [.reduce 218 2 0 9],
    [.reduce 219 2 0 9],
    [.reduce 222 2 0 0],
    [.reduce 227 2 0 0],
    [.reduce 205 2 0 10],
    [.reduce 150 2 0 0],
    [.reduce 219 2 0 11],
    [.reduce 220 2 0 0],
    [.reduce 188 2 0 12],
    [.reduce 241 2 0 0],
    [.reduce 241 2 0 0, .again 39],
    [.reduce 241 2 0 0, .again 3],
    [.reduce 241 2 0 0, .again 4],
    [.reduce 241 2 0 0, .again 5],
    [.reduce 241 2 0 0, .again 6],
    [.reduce 241 2 0 0, .again 7],
    [.reduce 241 2 0 0, .again 8],
    [.reduce 241 2 0 0, .again 9],
    [.reduce 241 2 0 0, .again 10],
    [.reduce 241 2 0 0, .again 11],
    [.reduce 241 2 0 0, .again 12],
    [.reduce 241 2 0 0, .again 13],
    [.reduce 241 2 0 0, .again 14],
    [.reduce 241 2 0 0, .again 15],
    [.reduce 241 2 0 0, .again 16],
    [.reduce 241 2 0 0, .again 17],
    [.reduce 241 2 0 0, .again 18],
    [.reduce 241 2 0 0, .again 19],
    [.reduce 241 2 0 0, .again 20],
    [.reduce 241 2 0 0, .again 21],
    [.reduce 241 2 0 0, .again 22],
    [.reduce 241 2 0 0, .again 23],
    [.reduce 241 2 0 0, .again 24],
    [.reduce 241 2 0 0, .again 25],
    [.reduce 241 2 0 0, .again 26],
    [.reduce 241 2 0 0, .again 27],
    [.reduce 241 2 0 0, .again 28],
    [.reduce 241 2 0 0, .again 29],
    [.reduce 241 2 0 0, .again 30],
    [.reduce 241 2 0 0, .again 31],
    [.reduce 241 2 0 0, .again 32],
    [.reduce 241 2 0 0, .again 33],
    [.reduce 241 2 0 0, .again 34],
    [.reduce 241 2 0 0, .again 35],
    [.reduce 241 2 0 0, .again 36],
    [.reduce 241 2 0 0, .again 37],
    [.reduce 241 2 0 0, .again 38],
    [.reduce 241 2 0 0, .again 40],
    [.reduce 241 2 0 0, .again 41],
    [.reduce 241 2 0 0, .again 42],
    [.reduce 241 2 0 0, .again 43],
    [.reduce 242 2 0 13],
    [.reduce 242 2 0 13, .again 42],
    [.reduce 135 3 0 14],
    [.reduce 137 2 0 0],
    [.reduce 138 1 0 6],
    [.reduce 172 3 (-1) 15],
    [.reduce 210 3 0 16],
    [.reduce 204 3 0 17],
    [.reduce 135 3 0 0],
    [.reduce 182 3 0 18],
    [.reduce 183 3 0 19],
    [.reduce 239 1 0 4],
    [.reduce 247 2 0 18, .reduce 248 2 0 19],
    [.reduce 248 2 0 0],
    [.reduce 247 2 0 0],
    [.reduce 155 3 0 0],
    [.reduce 180 1 0 1, .reduce 235 2 0 20],
    [.reduce 180 1 0 0, .reduce 235 2 0 0],
    [.reduce 215 2 0 0],
    [.reduce 235 2 0 0],
    [.reduce 248 1 0 0],
    [.reduce 183 3 0 0],
    [.reduce 247 1 0 0],
    [.reduce 182 3 0 0],
    [.reduce 247 2 0 0, .again 299],
    [.reduce 248 2 0 0, .again 295],
    [.reduce 146 2 0 0],
    [.reduce 139 1 0 0],
    [.reduce 147 1 0 6],
    [.reduce 225 3 0 0],
    [.reduce 142 3 0 21],
    [.reduce 165 3 0 22],
    [.reduce 154 2 0 23],
    [.reduce 250 1 0 0],
    [.reduce 154 2 0 24],
    [.reduce 151 3 0 0],
    [.reduce 152 3 0 25],
    [.reduce 153 3 0 25],
    [.reduce 157 3 0 26],
    [.reduce 158 3 0 27],
    [.reduce 180 1 0 1, .shift 592],
    [.reduce 180 1 0 0, .shift 600],
    [.reduce 160 3 0 28],
    [.reduce 178 3 0 0],
    [.reduce 232 3 0 0],
    [.reduce 162 3 0 29],
    [.reduce 164 3 0 30],
    [.reduce 164 3 0 31],
    [.reduce 166 3 0 32],
    [.reduce 167 3 0 32],
    [.reduce 169 3 0 0],
    [.reduce 170 3 0 0],
    [.reduce 181 3 0 0],
    [.reduce 249 2 0 0],
    [.reduce 250 2 0 0],
    [.reduce 249 1 0 0],
    [.reduce 186 3 0 0],
    [.reduce 187 3 0 0],
    [.reduce 249 2 0 0, .again 395],
    [.reduce 250 2 0 0, .again 333],
    [.reduce 190 3 (-1) 33],
    [.reduce 195 1 0 4],
    [.reduce 194 3 0 33],
    [.reduce 252 1 0 34],
    [.reduce 195 1 0 0],
    [.reduce 221 3 0 0],
    [.reduce 256 2 0 0],
    [.reduce 256 2 0 0, .again 411],
    [.reduce 257 2 0 0],
    [.reduce 257 2 0 0, .again 412],
    [.reduce 230 2 0 0],
    [.reduce 259 1 0 35],
    [.reduce 259 1 0 35, .again 627],
    [.reduce 231 1 0 36],
    [.reduce 199 2 0 0],
    [.reduce 198 3 0 37],
    [.reduce 197 3 0 37],
    [.reduce 197 3 0 38],
    [.reduce 200 3 0 39],
    [.reduce 206 3 1 40],
    [.reduce 224 3 0 41],
    [.reduce 222 3 0 0],
    [.reduce 258 2 0 0, .again 442],
    [.reduce 258 2 0 0],
    [.reduce 258 2 0 0, .again 198],
    [.reduce 210 3 0 42],
    [.reduce 204 3 0 43],
    [.reduce 217 3 0 44],
    [.reduce 229 2 0 10],
    [.reduce 226 2 0 0],
    [.reduce 208 3 0 45],
    [.reduce 208 3 0 46],
    [.reduce 208 3 0 47],
    [.reduce 208 3 0 48],
    [.reduce 255 2 0 0],
    [.reduce 255 2 0 0, .again 212],
    [.reduce 205 3 0 49],
    [.reduce 189 2 0 0],
    [.reduce 193 2 0 0],
    [.reduce 188 3 0 50],
    [.reduce 251 2 0 0, .again 229],
    [.reduce 251 2 0 0, .again 485],
    [.reduce 251 2 0 0, .again 1673],
    [.reduce 251 2 0 0],
    [.reduce 212 3 0 44],
    [.reduce 204 3 0 51],
    [.reduce 135 3 0 52],
    [.reduce 197 3 0 53],
    [.reduce 136 3 0 0],
    [.reduce 144 2 0 21],
    [.reduce 135 4 0 54],
    [.reduce 135 4 0 55],
    [.reduce 137 3 0 0],
    [.reduce 185 3 0 56, .reduce 210 3 0 16],
    [.reduce 185 3 0 56],
    [.reduce 182 4 0 18],
    [.reduce 183 4 0 19],
    [.reduce 186 3 0 0, .reduce 240 3 0 0],
    [.reduce 240 3 0 0],
    [.reduce 185 3 0 56, .reduce 210 3 0 42],
    [.reduce 248 2 0 19],
    [.reduce 183 4 0 0],
    [.reduce 185 3 0 42, .reduce 210 3 0 42],
    [.reduce 185 3 0 42],
    [.reduce 247 2 0 18],
    [.reduce 182 4 0 0],
    [.reduce 237 3 0 57],
    [.reduce 238 3 0 57],
    [.reduce 236 3 0 58],
    [.reduce 155 4 0 0],
    [.reduce 145 3 0 0],
    [.reduce 146 3 0 0],
    [.reduce 143 3 0 0],
    [.reduce 142 4 0 54],
    [.reduce 148 2 0 0],
    [.reduce 142 4 0 21],
    [.reduce 213 2 0 59],
    [.reduce 245 2 0 0],
    [.reduce 151 4 0 0],
    [.reduce 245 2 0 0, .again 337],
    [.reduce 152 4 0 25],
    [.reduce 153 4 0 25],
    [.reduce 153 4 0 60],
    [.reduce 157 4 0 61],
    [.reduce 173 2 0 0],
    [.reduce 180 1 0 1, .shift 110],
    [.reduce 160 4 0 62],
    [.reduce 154 1 0 5, .shift 739],
    [.reduce 154 1 0 6, .shift 741],
    [.reduce 232 4 0 0],
    [.reduce 260 2 0 0],
    [.reduce 260 2 0 0, .again 754],
    [.reduce 184 3 0 42],
    [.reduce 163 4 0 63],
    [.reduce 176 2 0 7],
    [.reduce 177 2 0 7],
    [.reduce 164 4 0 64],
    [.reduce 186 4 0 0],
    [.reduce 187 4 0 0],
    [.reduce 192 3 0 0],
    [.reduce 190 4 (-1) 65],
    [.reduce 194 4 0 65],
    [.reduce 252 2 0 66, .again 404],
    [.reduce 252 2 0 66, .again 1254],
    [.reduce 252 2 0 66],
    [.reduce 191 3 0 45],
    [.reduce 233 2 0 7],
    [.reduce 231 2 0 67],
    [.reduce 259 2 0 35],
    [.reduce 231 2 0 68],
    [.reduce 231 2 0 69],
    [.reduce 230 3 0 70],
    [.reduce 259 2 0 71, .again 984],
    [.reduce 259 2 0 71, .again 1757],
    [.reduce 259 2 0 71],
    [.reduce 259 2 0 71, .again 632],
    [.reduce 259 2 0 71, .again 1528],
    [.reduce 259 2 0 71, .again 1187],
    [.reduce 259 2 0 71, .again 1188],
    [.reduce 259 2 0 71, .again 414],
    [.reduce 259 2 0 71, .again 420],
    [.reduce 259 2 0 71, .again 42],
    [.reduce 259 2 0 71, .again 415],
    [.reduce 259 2 0 71, .again 1758],
    [.reduce 259 2 0 71, .again 416],
    [.reduce 198 4 0 72],
    [.reduce 197 4 0 72],
    [.reduce 198 4 0 37],
    [.reduce 204 4 0 73],
    [.reduce 200 4 0 74],
    [.reduce 204 4 0 75],
    [.reduce 204 4 0 76],
    [.reduce 202 4 0 74],
    [.reduce 201 4 0 77],
    [.reduce 200 4 0 77],
    [.reduce 224 4 0 78],
    [.reduce 223 3 0 0],
    [.reduce 228 3 0 45],
    [.reduce 226 3 0 0],
    [.reduce 209 4 0 79],
    [.reduce 189 3 0 0],
    [.reduce 193 3 0 33],
    [.reduce 135 4 0 80],
    [.reduce 198 4 0 81],
    [.reduce 197 4 0 81],
    [.reduce 197 4 0 82],
    [.reduce 137 4 0 0],
    [.reduce 243 2 0 0],
    [.reduce 243 2 0 0, .again 778],
    [.reduce 138 3 0 83],
    [.reduce 236 4 0 77],
    [.reduce 236 4 0 84],
    [.reduce 147 3 0 83],
    [.reduce 146 4 0 0],
    [.reduce 244 2 0 0],
    [.reduce 244 2 0 0, .again 809],
    [.reduce 142 5 0 54],
    [.reduce 153 5 0 60],
    [.reduce 156 2 0 0],
    [.reduce 175 2 0 0],
    [.reduce 173 3 0 0],
    [.reduce 246 2 0 0, .again 585],
    [.reduce 246 2 0 0],
    [.reduce 246 2 0 0, .again 587],
    [.reduce 232 5 0 0],
    [.reduce 163 5 0 63],
    [.reduce 195 3 0 4],
    [.reduce 195 3 0 0],
    [.reduce 231 3 0 85],
    [.reduce 231 3 0 86],
    [.reduce 231 3 0 87],
    [.reduce 198 5 0 72],
    [.reduce 202 5 0 88],
    [.reduce 201 5 0 89],
    [.reduce 200 5 0 89],
    [.reduce 203 5 0 89],
    [.reduce 202 5 0 89],
    [.reduce 201 5 0 77],
    [.reduce 226 4 0 0],
    [.reduce 216 5 0 90],
    [.reduce 209 5 0 91],
    [.reduce 135 5 0 92],
    [.reduce 198 5 0 93],
    [.reduce 197 5 0 93],
    [.reduce 198 5 0 81],
    [.reduce 137 5 0 0],
    [.reduce 236 5 0 89],
    [.reduce 236 5 0 94],
    [.reduce 146 5 0 0],
    [.reduce 175 3 0 38],
    [.reduce 174 3 0 59],
    [.reduce 161 5 0 95],
    [.reduce 161 5 0 96],
    [.reduce 159 6 0 97],
    [.reduce 196 2 0 0],
    [.reduce 231 4 0 98],
    [.reduce 203 6 0 99],
    [.reduce 202 6 0 99],
    [.reduce 201 6 0 89],
    [.reduce 203 6 0 89],
    [.reduce 198 6 0 93],
    [.reduce 236 6 0 99],
    [.reduce 236 6 0 100],
    [.reduce 174 4 0 101],
    [.reduce 161 6 0 102],
    [.reduce 161 6 0 103],
    [.reduce 159 7 0 104],
    [.reduce 159 7 0 105],
    [.reduce 159 7 0 106],
    [.reduce 176 5 0 107],
    [.reduce 196 3 0 0],
    [.reduce 253 2 0 0, .again 897],
    [.reduce 253 2 0 0],
    [.reduce 254 2 0 0, .again 898],
    [.reduce 254 2 0 0],
    [.reduce 203 7 0 99],
    [.reduce 236 7 0 108],
    [.reduce 161 7 0 109],
    [.reduce 161 7 0 110],
    [.reduce 161 7 0 111],
    [.reduce 161 7 0 112],
    [.reduce 161 7 0 113],
    [.reduce 159 8 0 114],
    [.reduce 159 8 0 115],
    [.reduce 159 8 0 116],
    [.reduce 161 8 0 117],
    [.reduce 161 8 0 118],
    [.reduce 159 9 0 119],
    [.reduce 180 1 0 1, .shift 1186],
    [.reduce 180 1 0 1, .shift 1606],
    [.reduce 180 1 0 1, .shift 1607],
    [.reduce 234 1 (-1) 1],
    [.reduce 234 1 (-1) 1, .shift 1610],
    [.reduce 234 1 (-1) 0, .shift 1618],
    [.reduce 186 2 0 0, .reduce 187 2 0 0],
    [.reduce 182 3 0 18, .reduce 183 3 0 19],
    [.reduce 235 2 0 20],
    [.reduce 182 2 0 0, .reduce 183 2 0 0],
    [.reduce 255 2 0 0, .again 963],
    [.reduce 213 2 0 59, .shift 1508],
    [.reduce 213 2 0 59, .shift 1685],
    [.reduce 180 1 0 1, .shift 1216],
    [.reduce 180 1 0 1, .shift 1343],
    [.reduce 180 1 0 1, .shift 1344],
    [.reduce 180 1 0 1, .shift 1749],
    [.reduce 180 1 0 1, .shift 1674],
    [.reduce 180 1 0 1, .shift 1490],
    [.reduce 180 1 0 1, .shift 1677],
    [.reduce 180 1 0 1, .shift 1737],
    [.reduce 180 1 0 1, .shift 1678]]

end ScriptDeps.Grammar
