import ReportQuery.Catalog.Basic

/-!
# The catalog of the sales schema

The tables of a sales database: brands with their sub-brands, stores, channels, products and
customers, and sales with their products. Every table has the column `id`, to which the foreign
keys of the other tables refer; a foreign key is named after the table it refers to.
-/

namespace ReportQuery.Catalog

/-- The primary key that every table has. -/
def idColumn : Column where
  name := "id"
  type := "INTEGER"
  isPrimary := true

/-- Columns of one type. -/
def columnsOf (type : String) (names : List String) : List Column :=
  names.map fun name ↦ { name, type }

/-- The column that holds the `id` of another table. -/
def keyTo (table column : String) : ForeignKey where
  columns := [column]
  table := table
  referenced := ["id"]

/-- A table with the column `id`, the columns of its foreign keys, and further columns. -/
def keyedTable (name : String) (keys : List ForeignKey) (further : List Column) : Table where
  name := name
  columns := idColumn :: columnsOf "INTEGER" (keys.flatMap (·.columns)) ++ further
  foreignKeys := keys

/-- The tables of the sales schema. -/
def sales : Catalog where
  tables :=
    let brand := keyTo "brands" "brand_id"
    let subBrand := keyTo "sub_brands" "sub_brand_id"
    let store := keyTo "stores" "store_id"
    [ keyedTable "brands" [] (columnsOf "VARCHAR" ["name"] ++ columnsOf "DATETIME" ["created_at"]),
      keyedTable "sub_brands" [brand]
        (columnsOf "VARCHAR" ["name"] ++ columnsOf "DATETIME" ["created_at"]),
      keyedTable "stores" [brand, subBrand]
        (columnsOf "VARCHAR" ["name", "city"] ++ columnsOf "VARCHAR(2)" ["state"] ++
          columnsOf "BOOLEAN" ["is_active"]),
      keyedTable "channels" [brand]
        (columnsOf "VARCHAR" ["name"] ++ columnsOf "VARCHAR(1)" ["type"]),
      keyedTable "products" [brand, subBrand] (columnsOf "VARCHAR" ["name"]),
      keyedTable "customers" [store, subBrand]
        (columnsOf "VARCHAR" ["customer_name", "email"] ++ columnsOf "DATE" ["birth_date"] ++
          columnsOf "DATETIME" ["created_at"]),
      keyedTable "sales"
        [store, subBrand, keyTo "customers" "customer_id", keyTo "channels" "channel_id"]
        (columnsOf "DATETIME" ["created_at"] ++ columnsOf "VARCHAR" ["sale_status_desc"] ++
          columnsOf "NUMERIC(10, 2)" ["total_amount", "total_discount"] ++
          columnsOf "INTEGER" ["people_quantity"]),
      keyedTable "product_sales" [keyTo "sales" "sale_id", keyTo "products" "product_id"]
        (columnsOf "INTEGER" ["quantity"] ++ columnsOf "NUMERIC(10, 2)" ["total_price"]) ]

end ReportQuery.Catalog
