import CrudScaffold.Template.Basic

/-!
# The files of a module

The templates of the module that ties the controller and the service of an entity together in a
NestJS application, of the controller, which answers requests, and of the service, which works on
the records of the entity in the database. Their places are for the spellings of the name of the
entity and for its sample values.
-/

namespace CrudScaffold.Source

/-! ### Places -/

/-- The place for a value. -/
def place (name : String) : Template := .value (.named name) .done

/-- The name of classes. -/
def namePascal : Template := place "name_pascal"

/-- The name of files and of the route. -/
def nameKebab : Template := place "name_kebab"

/-- The name of variables. -/
def nameCamel : Template := place "name_camel"

/-- The plural for headings. -/
def pluralPascal : Template := place "plural_pascal"

/-- The plural for descriptions. -/
def pluralKebab : Template := place "plural_kebab"

/-- Values for a new record. -/
def samplePayload : Template := place "sample_payload"

/-- The first name among the sample values. -/
def sampleKey : Template := place "sample_key"

/-! ### The module -/

/-- The module. -/
def moduleFile : Template := .concat [
  "import \x7b Module \x7d from '@nestjs/common';\n",
  "import \x7b ", namePascal, "Controller \x7d from './", nameKebab, ".controller';\n",
  "import \x7b ", namePascal, "Service \x7d from './", nameKebab, ".service';\n",
  "\n",
  "@Module(\x7b\n",
  "  controllers: [", namePascal, "Controller],\n",
  "  providers: [", namePascal, "Service],\n",
  "  exports: [", namePascal, "Service],\n",
  "\x7d)\n",
  "export class ", namePascal, "Module \x7b\x7d\n"]

/-! ### The controller -/

/-- What the controller uses. -/
def controllerImports : Template := .concat [
  "import \x7b\n",
  "  Controller,\n",
  "  Get,\n",
  "  Post,\n",
  "  Body,\n",
  "  Patch,\n",
  "  Param,\n",
  "  Delete,\n",
  "  UseGuards,\n",
  "  Query,\n",
  "\x7d from '@nestjs/common';\n",
  "import \x7b ApiTags, ApiOperation, ApiResponse, ApiBearerAuth \x7d from '@nestjs/swagger';\n",
  "import \x7b ", namePascal, "Service \x7d from './", nameKebab, ".service';\n",
  "import \x7b Create", namePascal, "Dto \x7d from './dto/create-", nameKebab, ".dto';\n",
  "import \x7b Update", namePascal, "Dto \x7d from './dto/update-", nameKebab, ".dto';\n",
  "import \x7b JwtAuthGuard \x7d from '../auth/guards/jwt-auth.guard';\n",
  "\n"]

/-- The class and what it is given. -/
def controllerHead : Template := .concat [
  "@ApiTags('", pluralPascal, "')\n",
  "@Controller('", nameKebab, "')\n",
  "@UseGuards(JwtAuthGuard)\n",
  "@ApiBearerAuth()\n",
  "export class ", namePascal, "Controller \x7b\n",
  "  constructor(private readonly ", nameCamel, "Service: ", namePascal, "Service) \x7b\x7d\n",
  "\n"]

/-- The route that makes a record. -/
def createRoute : Template := .concat [
  "  @Post()\n",
  "  @ApiOperation(\x7b summary: 'Create a new ", nameKebab, "' \x7d)\n",
  "  @ApiResponse(\x7b status: 201, description: '", namePascal, " created successfully' \x7d)\n",
  "  create(@Body() create", namePascal, "Dto: Create", namePascal, "Dto) \x7b\n",
  "    return this.", nameCamel, "Service.create(create", namePascal, "Dto);\n",
  "  \x7d\n",
  "\n"]

/-- The route that lists records. -/
def findAllRoute : Template := .concat [
  "  @Get()\n",
  "  @ApiOperation(\x7b summary: 'Get all ", pluralKebab, "' \x7d)\n",
  "  @ApiResponse(\x7b status: 200, description: 'List of ", pluralKebab, "' \x7d)\n",
  "  findAll(@Query() query: any) \x7b\n",
  "    return this.", nameCamel, "Service.findAll(query);\n",
  "  \x7d\n",
  "\n"]

/-- The route that reads a record. -/
def findOneRoute : Template := .concat [
  "  @Get(':id')\n",
  "  @ApiOperation(\x7b summary: 'Get a ", nameKebab, " by id' \x7d)\n",
  "  @ApiResponse(\x7b status: 200, description: '", namePascal, " found' \x7d)\n",
  "  @ApiResponse(\x7b status: 404, description: '", namePascal, " not found' \x7d)\n",
  "  findOne(@Param('id') id: string) \x7b\n",
  "    return this.", nameCamel, "Service.findOne(id);\n",
  "  \x7d\n",
  "\n"]

/-- The route that changes a record. -/
def updateRoute : Template := .concat [
  "  @Patch(':id')\n",
  "  @ApiOperation(\x7b summary: 'Update a ", nameKebab, "' \x7d)\n",
  "  @ApiResponse(\x7b status: 200, description: '", namePascal, " updated successfully' \x7d)\n",
  "  @ApiResponse(\x7b status: 404, description: '", namePascal, " not found' \x7d)\n",
  "  update(@Param('id') id: string, @Body() update", namePascal, "Dto: Update", namePascal,
    "Dto) \x7b\n",
  "    return this.", nameCamel, "Service.update(id, update", namePascal, "Dto);\n",
  "  \x7d\n",
  "\n"]

/-- The route that removes a record, and the end of the class. -/
def removeRoute : Template := .concat [
  "  @Delete(':id')\n",
  "  @ApiOperation(\x7b summary: 'Delete a ", nameKebab, "' \x7d)\n",
  "  @ApiResponse(\x7b status: 200, description: '", namePascal, " deleted successfully' \x7d)\n",
  "  @ApiResponse(\x7b status: 404, description: '", namePascal, " not found' \x7d)\n",
  "  remove(@Param('id') id: string) \x7b\n",
  "    return this.", nameCamel, "Service.remove(id);\n",
  "  \x7d\n",
  "\x7d\n"]

/-- The controller. -/
def controllerFile : Template := .concat [
  controllerImports, controllerHead, createRoute, findAllRoute, findOneRoute, updateRoute,
  removeRoute]

/-! ### The service -/

/-- What the service uses. -/
def serviceImports : Template := .concat [
  "import \x7b Injectable, NotFoundException \x7d from '@nestjs/common';\n",
  "import \x7b PrismaService \x7d from '../../core/prisma/prisma.service';\n",
  "import \x7b Create", namePascal, "Dto \x7d from './dto/create-", nameKebab, ".dto';\n",
  "import \x7b Update", namePascal, "Dto \x7d from './dto/update-", nameKebab, ".dto';\n",
  "\n"]

/-- The class and what it is given. -/
def serviceHead : Template := .concat [
  "@Injectable()\n",
  "export class ", namePascal, "Service \x7b\n",
  "  constructor(private readonly prisma: PrismaService) \x7b\x7d\n",
  "\n"]

/-- The method that makes a record. -/
def createMethod : Template := .concat [
  "  async create(create", namePascal, "Dto: Create", namePascal, "Dto) \x7b\n",
  "    return this.prisma.", nameCamel, ".create(\x7b\n",
  "      data: create", namePascal, "Dto,\n",
  "    \x7d);\n",
  "  \x7d\n",
  "\n"]

/-- The method that lists records, a page at a time. -/
def findAllMethod : Template := .concat [
  "  async findAll(query: any) \x7b\n",
  "    const \x7b page = 1, limit = 10, ...where \x7d = query;\n",
  "    const skip = (page - 1) * limit;\n",
  "\n",
  "    const [data, total] = await Promise.all([\n",
  "      this.prisma.", nameCamel, ".findMany(\x7b\n",
  "        where,\n",
  "        skip,\n",
  "        take: limit,\n",
  "      \x7d),\n",
  "      this.prisma.", nameCamel, ".count(\x7b where \x7d),\n",
  "    ]);\n",
  "\n",
  "    return \x7b\n",
  "      data,\n",
  "      meta: \x7b\n",
  "        page,\n",
  "        limit,\n",
  "        total,\n",
  "        pages: Math.ceil(total / limit),\n",
  "      \x7d,\n",
  "    \x7d;\n",
  "  \x7d\n",
  "\n"]

/-- The method that reads a record. -/
def findOneMethod : Template := .concat [
  "  async findOne(id: string) \x7b\n",
  "    const ", nameCamel, " = await this.prisma.", nameCamel, ".findUnique(\x7b\n",
  "      where: \x7b id \x7d,\n",
  "    \x7d);\n",
  "\n",
  "    if (!", nameCamel, ") \x7b\n",
  "      throw new NotFoundException(`", namePascal, " with ID $\x7bid\x7d not found`);\n",
  "    \x7d\n",
  "\n",
  "    return ", nameCamel, ";\n",
  "  \x7d\n",
  "\n"]

/-- The method that changes a record. -/
def updateMethod : Template := .concat [
  "  async update(id: string, update", namePascal, "Dto: Update", namePascal, "Dto) \x7b\n",
  "    await this.findOne(id);\n",
  "\n",
  "    return this.prisma.", nameCamel, ".update(\x7b\n",
  "      where: \x7b id \x7d,\n",
  "      data: update", namePascal, "Dto,\n",
  "    \x7d);\n",
  "  \x7d\n",
  "\n"]

/-- The method that removes a record, and the end of the class. -/
def removeMethod : Template := .concat [
  "  async remove(id: string) \x7b\n",
  "    await this.findOne(id);\n",
  "\n",
  "    return this.prisma.", nameCamel, ".delete(\x7b\n",
  "      where: \x7b id \x7d,\n",
  "    \x7d);\n",
  "  \x7d\n",
  "\x7d\n"]

/-- The service. -/
def serviceFile : Template := .concat [
  serviceImports, serviceHead, createMethod, findAllMethod, findOneMethod, updateMethod,
  removeMethod]

end CrudScaffold.Source
