import RelSchema.Orm.Mongoose
import RelSchema.Orm.Prisma
import RelSchema.Orm.Sequelize
import RelSchema.Orm.TypeOrm

namespace RelSchema.Orm

inductive Target where
  | sqlalchemy | prisma | sequelize | typeorm | mongoose
  deriving DecidableEq, Repr

structure UnknownTarget where
  name : String
  deriving DecidableEq, Repr

namespace Target

def all : List Target := [sqlalchemy, prisma, sequelize, typeorm, mongoose]

def name : Target → String
  | sqlalchemy => "sqlalchemy"
  | prisma => "prisma"
  | sequelize => "sequelize"
  | typeorm => "typeorm"
  | mongoose => "mongoose"

def ofName (name : String) : Except UnknownTarget Target :=
  match all.find? (·.name == Text.lower name) with
  | some t => .ok t
  | none => .error ⟨name⟩

def generate (t : Target) (s : Schema) : String :=
  match t with
  | sqlalchemy => SqlAlchemy.generate s
  | prisma => Prisma.generate s
  | sequelize => Sequelize.generate s
  | typeorm => TypeOrm.generate s
  | mongoose => Mongoose.generate s

def notices (t : Target) (asked : String) (s : Schema) : List Notice :=
  missingParents s ++ [.modelsGenerated asked s.tables.length (links s).length] ++
    if t = .mongoose then Mongoose.notices s else []

end Target

def UnknownTarget.message (e : UnknownTarget) : String :=
  s!"Unknown ORM target '{e.name}'. Expected one of: " ++
    Text.commas (Target.all.map (·.name))

end RelSchema.Orm
